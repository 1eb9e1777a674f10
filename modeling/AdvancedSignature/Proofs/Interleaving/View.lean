import AdvancedSignature.Proofs.Declaration.Attachment

/-!
# What an operation sees

Several operations may declare things at the same time.  They have the counter in common that
numbers the data objects, and each knows only what it made itself (`Holdings`): its data objects by
the order in which it described them, and its collections by the order in which it opened them.

`Declarations.seenBy` is what an operation sees of the declarations: its own data objects and
collections under these names of its own.  Looking things up, changing them and recording targets
gives the same whether it is done before or after looking, as the names tell the data objects of
the operation apart.
-/

namespace AdvancedSignature

/-! ## Names -/

/-- The data objects that an operation has described and the collections that it has opened. -/
structure Holdings where
  objects : List DataObjectId := []
  /-- The positions of the collections. -/
  collections : List Nat := []

namespace Holdings

/-- The name that the operation has for one of its data objects.  The first is called 1. -/
def name (h : Holdings) (id : DataObjectId) : DataObjectId := ⟨h.objects.idxOf id + 1⟩

/-- The data object that the operation calls by the name. -/
def object? (h : Holdings) (name : DataObjectId) : Option DataObjectId :=
  match name.sequence with
  | 0 => none
  | n + 1 => h.objects[n]?

/-- One more data object. -/
def hold (h : Holdings) (id : DataObjectId) : Holdings := { h with objects := h.objects ++ [id] }

/-- One more collection. -/
def holdCollection (h : Holdings) (i : Nat) : Holdings :=
  { h with collections := h.collections ++ [i] }

variable {h : Holdings} {id id' : DataObjectId}

/-- Names tell data objects of the operation apart. -/
theorem name_eq_iff (hid : id ∈ h.objects) : h.name id = h.name id' ↔ id = id' := by
  simp only [name, DataObjectId.mk.injEq, Nat.add_right_cancel_iff]
  exact List.idxOf_inj hid

theorem name_mem_map_iff (hid : id ∈ h.objects) {ids : List DataObjectId} :
    h.name id ∈ ids.map h.name ↔ id ∈ ids := by
  refine ⟨fun hmem => ?_, List.mem_map_of_mem⟩
  obtain ⟨id', hid', hname⟩ := List.mem_map.1 hmem
  exact (name_eq_iff hid).1 hname.symm ▸ hid'

/-- A name leads to the data object that has it. -/
theorem of_object?_eq_some (hnodup : h.objects.Nodup) {name : DataObjectId}
    (hname : h.object? name = some id) : id ∈ h.objects ∧ h.name id = name := by
  obtain ⟨_ | n⟩ := name
  · cases hname
  · obtain ⟨hn, hget⟩ := List.getElem?_eq_some_iff.1 hname
    refine ⟨hget ▸ List.getElem_mem hn, ?_⟩
    rw [Holdings.name, ← hget, hnodup.idxOf_getElem]

/-- The name of a data object leads to it. -/
theorem object?_name (hid : id ∈ h.objects) : h.object? (h.name id) = some id :=
  List.getElem?_idxOf hid

/-- An operation has names for as many data objects as it has described. -/
theorem isSome_object?_iff {name : DataObjectId} :
    (h.object? name).isSome ↔ 1 ≤ name.sequence ∧ name.sequence < h.objects.length + 1 := by
  obtain ⟨_ | n⟩ := name
  · simp [object?]
  · simp [object?]

/-- The names of what was there stay. -/
theorem name_hold (hid : id ∈ h.objects) (new : DataObjectId) :
    (h.hold new).name id = h.name id := by
  simp only [name, hold, List.idxOf_append_of_mem hid]

/-- The next name is for what is new. -/
theorem name_hold_self {new : DataObjectId} (hnew : new ∉ h.objects) :
    (h.hold new).name new = ⟨h.objects.length + 1⟩ := by
  simp only [name, hold, List.idxOf_append_of_notMem hnew, List.idxOf_cons_self, Nat.add_zero]

theorem mem_hold_iff {new : DataObjectId} (hne : id ≠ new) :
    id ∈ (h.hold new).objects ↔ id ∈ h.objects := by
  rw [hold, List.mem_append, List.mem_singleton, or_iff_left hne]

end Holdings

/-! ## Data objects, collections and targets as they are seen -/

/-- The description under the operation's own name. -/
def DataObjectDescription.seenBy (h : Holdings) (d : DataObjectDescription) :
    DataObjectDescription :=
  { d with id := h.name d.id }

/-- The collection with the operation's own names. -/
def SignedDataObjects.seenBy (h : Holdings) (c : SignedDataObjects) : SignedDataObjects :=
  { c with objects := c.objects.map (·.seenBy h) }

/-- The targets among the data objects of the operation, under its own names. -/
def TargetTable.seenBy (h : Holdings) (t : TargetTable) : TargetTable :=
  ⟨fun p => ((t.ofProperty p).filter (· ∈ h.objects)).map h.name⟩

/-- What the operation sees of the declarations. -/
def Declarations.seenBy (h : Holdings) (s : Declarations) : Declarations where
  nextDataObject := h.objects.length + 1
  table := s.table.seenBy h
  descriptions := (s.descriptions.filter (·.id ∈ h.objects)).map (·.seenBy h)
  collections := h.collections.map fun i => (s.collections[i]?.getD {}).seenBy h

variable {h : Holdings}

/-! ## One more data object

What does not mention the new data object is seen as before. -/

section Hold

variable {new : DataObjectId}

theorem DataObjectDescription.seenBy_hold {d : DataObjectDescription} (hd : d.id ∈ h.objects) :
    d.seenBy (h.hold new) = d.seenBy h := by
  rw [seenBy, Holdings.name_hold hd, seenBy]

theorem SignedDataObjects.seenBy_hold {c : SignedDataObjects}
    (hc : ∀ d ∈ c.objects, d.id ∈ h.objects) : c.seenBy (h.hold new) = c.seenBy h := by
  rw [seenBy, List.map_congr_left fun d hd => DataObjectDescription.seenBy_hold (hc d hd), seenBy]

theorem TargetTable.seenBy_hold {t : TargetTable} (ht : ∀ p, new ∉ t.ofProperty p) :
    t.seenBy (h.hold new) = t.seenBy h := by
  simp only [seenBy, TargetTable.mk.injEq]
  funext p
  have hne {id : DataObjectId} (hid : id ∈ t.ofProperty p) : id ≠ new := fun heq =>
    ht p (heq ▸ hid)
  rw [List.filter_congr fun id hid => decide_eq_decide.2 (Holdings.mem_hold_iff (hne hid))]
  refine List.map_congr_left fun id hid => ?_
  exact Holdings.name_hold (of_decide_eq_true (List.mem_filter.1 hid).2) new

theorem Declarations.descriptions_seenBy_hold {l : List DataObjectDescription}
    (hl : ∀ d ∈ l, d.id ≠ new) :
    (l.filter (·.id ∈ (h.hold new).objects)).map (·.seenBy (h.hold new)) =
      (l.filter (·.id ∈ h.objects)).map (·.seenBy h) := by
  rw [List.filter_congr fun d hd => decide_eq_decide.2 (Holdings.mem_hold_iff (hl d hd))]
  refine List.map_congr_left fun d hd => ?_
  exact DataObjectDescription.seenBy_hold (of_decide_eq_true (List.mem_filter.1 hd).2)

end Hold

/-! ## Targets -/

namespace TargetTable

variable {t : TargetTable} {p : DataObjectProperty}

theorem ofProperty_seenBy (ht : ∀ id ∈ t.ofProperty p, id ∈ h.objects) :
    (t.seenBy h).ofProperty p = (t.ofProperty p).map h.name := by
  change ((t.ofProperty p).filter (· ∈ h.objects)).map h.name = _
  rw [List.filter_eq_self.2 fun id hid => decide_eq_true (ht id hid)]

theorem seenBy_set (t : TargetTable) (p : DataObjectProperty) {targets : List DataObjectId}
    (htargets : ∀ id ∈ targets, id ∈ h.objects) :
    (t.set p targets).seenBy h = (t.seenBy h).set p (targets.map h.name) := by
  simp only [seenBy, set, TargetTable.mk.injEq]
  funext q
  by_cases hq : q = p
  · rw [if_pos hq, if_pos hq, List.filter_eq_self.2 fun id hid => decide_eq_true (htargets id hid)]
  · rw [if_neg hq, if_neg hq]

/-- A target under the operation's own names is refused as the target is. -/
theorem attach_seenBy (ht : ∀ id ∈ t.ofProperty p, id ∈ h.objects) {id : DataObjectId}
    (hid : id ∈ h.objects) :
    (t.seenBy h).attach p (h.name id) = (t.attach p id).map (·.seenBy h) := by
  have hset := seenBy_set t p (List.forall_mem_append.2 ⟨ht, List.forall_mem_singleton.2 hid⟩)
  rw [List.map_append, List.map_singleton] at hset
  simp only [attach, targetSet, DataObjectProperty.targetSet, ofProperty_seenBy ht,
    TargetSet.attach, TargetSet.isAttachedTo, List.contains_iff_mem,
    Holdings.name_mem_map_iff hid, List.length_map]
  by_cases hall : p.multiplicity = .all
  · simp only [hall, if_true, Except.map]
  · by_cases hmem : id ∈ t.ofProperty p
    · simp only [hall, hmem, if_true, if_false, Except.map]
    · by_cases hfull : p.multiplicity.cap = some (t.ofProperty p).length
      · simp only [hall, hmem, hfull, if_true, if_false, Except.map]
      · simp only [hall, hmem, hfull, if_false, Except.map, hset]

end TargetTable

/-! ## Declarations on a data object -/

theorem insertAndAttach_seenBy (b : Bag DataObjectProperty) {t : TargetTable}
    {p : DataObjectProperty} (ht : ∀ id ∈ t.ofProperty p, id ∈ h.objects) {id : DataObjectId}
    (hid : id ∈ h.objects) :
    insertAndAttach b (t.seenBy h) p (h.name id) =
      ((insertAndAttach b t p id).1, (insertAndAttach b t p id).2.1,
        (insertAndAttach b t p id).2.2.seenBy h) := by
  unfold insertAndAttach
  rw [TargetTable.attach_seenBy ht hid]
  cases b.putOrAdd p with
  | error e => rfl
  | ok inserted =>
    cases t.attach p id with
    | ok attached => rfl
    | error e => cases hremove : inserted.remove p <;> simp only [Except.map, hremove]

namespace DataObjectDescription

theorem declare_seenBy {d : DataObjectDescription} {t : TargetTable} {p : DataObjectProperty}
    (ht : ∀ id ∈ t.ofProperty p, id ∈ h.objects) (hd : d.id ∈ h.objects) :
    (d.seenBy h).declare (t.seenBy h) p =
      ((d.declare t p).1, (d.declare t p).2.1.seenBy h, (d.declare t p).2.2.seenBy h) := by
  simp only [declare, seenBy, insertAndAttach_seenBy _ ht hd]
  split_ifs <;> rfl

theorem addTransform_seenBy (d : DataObjectDescription) (t : AlgorithmInstance) :
    (d.seenBy h).addTransform t = (d.addTransform t).map (·.seenBy h) := by
  unfold addTransform
  change (if d.transforms.contains t then _ else _) = _
  split_ifs <;> rfl

end DataObjectDescription

/-! ## Collections -/

namespace SignedDataObjects

theorem referenceIds_seenBy (c : SignedDataObjects) :
    (c.seenBy h).referenceIds = c.referenceIds := by
  simp only [referenceIds, seenBy, List.map_map]
  rfl

theorem add_seenBy (c : SignedDataObjects) (d : DataObjectDescription) :
    (c.seenBy h).add (d.seenBy h) = (c.add d).map (·.seenBy h) := by
  rw [add_eq, add_eq, referenceIds_seenBy]
  change (if d.referenceId ∈ c.referenceIds then _ else _) = _
  split_ifs
  · rfl
  · simp [Except.map, seenBy]

theorem declareForAll_seenBy (c : SignedDataObjects) (p : DataObjectProperty) :
    (c.seenBy h).declareForAll p = (c.declareForAll p).map (·.seenBy h) := by
  simp only [declareForAll, seenBy]
  split_ifs
  · rfl
  · cases c.forAllUnsigned.putOrAdd p <;> rfl
  · cases c.forAllSigned.putOrAdd p <;> rfl

end SignedDataObjects

/-! ## Replacing a description -/

namespace Declarations

/-- Replacing a description changes no identity. -/
theorem filter_replaceIn (ids : List DataObjectId) (d : DataObjectDescription)
    (l : List DataObjectDescription) :
    (replaceIn d l).filter (·.id ∈ ids) = replaceIn d (l.filter (·.id ∈ ids)) := by
  rw [replaceIn, List.filter_map, replaceIn]
  congr 1
  refine List.filter_congr fun o _ => ?_
  simp only [Function.comp_apply]
  split_ifs with hid
  · rw [hid]
  · rfl

theorem replaceIn_of_notMem {d : DataObjectDescription} {l : List DataObjectDescription}
    (hl : ∀ o ∈ l, o.id ≠ d.id) : replaceIn d l = l := by
  refine (List.map_congr_left fun o ho => ?_).trans (List.map_id l)
  rw [if_neg (hl o ho)]
  rfl

theorem replaceIn_seenBy {d : DataObjectDescription} {l : List DataObjectDescription}
    (hl : ∀ o ∈ l, o.id ∈ h.objects) :
    (replaceIn d l).map (·.seenBy h) = replaceIn (d.seenBy h) (l.map (·.seenBy h)) := by
  rw [replaceIn, replaceIn, List.map_map, List.map_map]
  refine List.map_congr_left fun o ho => ?_
  have hname : (o.seenBy h).id = (d.seenBy h).id ↔ o.id = d.id := Holdings.name_eq_iff (hl o ho)
  simp only [Function.comp_apply, hname]
  split_ifs <;> rfl

end Declarations

end AdvancedSignature
