import AdvancedSignature.Proofs.Interleaving.View

/-!
# Operations on things of their own

An operation that names only what it made itself (`Holdings.resolve`) and others that name only
what they made are kept apart: a collection holds data objects of one side only, and so does the
list of targets of a property (`Declarations.Separates`).

* `Holdings.IsGiven.after`, `Holdings.IsApart.after`: what is made is new, so that no other
  operation holds it.
* `Separates.perform`: every action keeps the sides apart.
* `Separates.seenBy_perform_of_foreign`: what the others do is not seen.
-/

namespace AdvancedSignature

/-! ## What an action names -/

namespace Action

/-- The data object that the action names. -/
def object? : Action → Option DataObjectId
  | .setType id _ | .addTransform id _ | .declare id _ | .attach _ id | .register id _ => some id
  | _ => none

/-- The collection that the action names. -/
def collection? : Action → Option Nat
  | .register _ i | .declareForAll i _ => some i
  | _ => none

/-- The property that the action names. -/
def property? : Action → Option DataObjectProperty
  | .declare _ p | .attach p _ | .declareForAll _ p => some p
  | _ => none

/-- The action with other names for data objects and collections, if there are such names. -/
def rename? (object : DataObjectId → Option DataObjectId) (collection : Nat → Option Nat) :
    Action → Option Action
  | .setType id referenceType => (object id).map (.setType · referenceType)
  | .addTransform id t => (object id).map (.addTransform · t)
  | .declare id p => (object id).map (.declare · p)
  | .attach p id => (object id).map (.attach p)
  | .register id i => (object id).bind fun id => (collection i).map (.register id)
  | .declareForAll i p => (collection i).map (.declareForAll · p)
  | a => some a

/-- The action names only things of one side: the operation's own, or those of others. -/
structure KeepsTo (h : Holdings) (own : DataObjectProperty → Prop) (mine : Prop) (a : Action) :
    Prop where
  object : ∀ id, a.object? = some id → (id ∈ h.objects ↔ mine)
  collection : ∀ i, a.collection? = some i → (i ∈ h.collections ↔ mine)
  property : ∀ p, a.property? = some p → (own p ↔ mine)

end Action

namespace Holdings

/-- The action that the operation means. -/
def resolve (h : Holdings) (a : Action) : Option Action :=
  a.rename? h.object? fun i => h.collections[i]?

/-- What the operation holds has been given out. -/
structure IsGiven (h : Holdings) (s : Declarations) : Prop where
  allocated : ∀ id ∈ h.objects, s.isAllocated id = true
  opened : ∀ i ∈ h.collections, i < s.collections.length

/-- What the operation has made after an action of its own. -/
def after (h : Holdings) (s : Declarations) : Action → Holdings
  | .describe _ | .describeAs _ _ => h.hold ⟨s.nextDataObject⟩
  | .openCollection => h.holdCollection s.collections.length
  | _ => h

end Holdings

namespace Declarations

variable {s : Declarations}

/-! ## Collections after an action -/

/-- Collections are only ever opened. -/
theorem IsConsistent.length_collections_le (hs : s.IsConsistent) (a : Action) :
    s.collections.length ≤ (s.perform a).2.collections.length := by
  obtain ⟨o, s', heq, hchange⟩ := hs.change a
  rw [heq]
  cases hchange with
  | refused => cases a <;> exact Nat.le_refl _
  | openCollection => simp
  | setType | addTransform | declare => simp [Declarations.replace]
  | register | declareForAll => simp
  | _ => exact Nat.le_refl _

/-- A data object in a collection was there before, or has just been handed over to it. -/
theorem IsConsistent.mem_collection_perform (hs : s.IsConsistent) {a : Action} {i : Nat}
    {c : SignedDataObjects} (hc : (s.perform a).2.collections[i]? = some c)
    {d : DataObjectDescription} (hd : d ∈ c.objects) :
    (∃ c₀ d₀, s.collections[i]? = some c₀ ∧ d₀ ∈ c₀.objects ∧ d₀.id = d.id) ∨
      a = .register d.id i := by
  obtain ⟨o, s', heq, hchange⟩ := hs.change a
  rw [heq] at hc
  replace hc : s'.collections[i]? = some c := hc
  have hreplace {new : DataObjectDescription}
      (hc : (s.replace new).collections[i]? = some c) :
      ∃ c₀ d₀, s.collections[i]? = some c₀ ∧ d₀ ∈ c₀.objects ∧ d₀.id = d.id := by
    simp only [Declarations.replace, List.getElem?_map, Option.map_eq_some_iff] at hc
    obtain ⟨c₀, hc₀, rfl⟩ := hc
    obtain ⟨d₀, hd₀, rfl⟩ := List.mem_map.1 hd
    refine ⟨c₀, d₀, hc₀, hd₀, ?_⟩
    split_ifs with hid
    · exact hid
    · rfl
  cases hchange with
  | unknown | attach | checkLayout | describe | describeAs => exact Or.inl ⟨c, d, hc, hd, rfl⟩
  | refused =>
    refine Or.inl ⟨c, d, ?_, hd, rfl⟩
    cases a <;> exact hc
  | openCollection =>
    by_cases hi : i < s.collections.length
    · rw [List.getElem?_append_left hi] at hc
      exact Or.inl ⟨c, d, hc, hd, rfl⟩
    · rw [List.getElem?_append_right (Nat.le_of_not_lt hi)] at hc
      obtain rfl := List.mem_singleton.1 (List.mem_of_getElem? hc)
      simp at hd
  | setType | addTransform | declare => exact Or.inl (hreplace hc)
  | @register d' hd' j c₀ hc₀ =>
    by_cases hij : j = i
    · subst hij
      rw [List.getElem?_set_self (List.getElem?_eq_some_iff.1 hc₀).1] at hc
      cases hc
      rcases List.mem_append.1 hd with hd | hd
      · exact Or.inl ⟨c₀, d, hc₀, hd, rfl⟩
      · rw [List.mem_singleton.1 hd]
        exact Or.inr rfl
    · rw [List.getElem?_set_ne hij] at hc
      exact Or.inl ⟨c, d, hc, hd, rfl⟩
  | @declareForAll j c₀ hc₀ p =>
    by_cases hij : j = i
    · subst hij
      rw [List.getElem?_set_self (List.getElem?_eq_some_iff.1 hc₀).1] at hc
      cases hc
      exact Or.inl ⟨c₀, d, hc₀, by simpa using hd, rfl⟩
    · rw [List.getElem?_set_ne hij] at hc
      exact Or.inl ⟨c, d, hc, hd, rfl⟩

theorem isAllocated_iff {id : DataObjectId} :
    s.isAllocated id = true ↔ 1 ≤ id.sequence ∧ id.sequence < s.nextDataObject := by
  simp [isAllocated]

end Declarations

/-! ## What is held -/

namespace Holdings

variable {h h' : Holdings} {s : Declarations} {b : Action}

theorem IsGiven.next_notMem (hh : h.IsGiven s) : ⟨s.nextDataObject⟩ ∉ h.objects := fun hmem =>
  Nat.lt_irrefl _ (Declarations.isAllocated_iff.1 (hh.allocated _ hmem)).2

theorem IsGiven.length_notMem (hh : h.IsGiven s) : s.collections.length ∉ h.collections :=
  fun hmem => Nat.lt_irrefl _ (hh.opened _ hmem)

theorem IsGiven.exists_collection (hh : h.IsGiven s) {i : Nat} (hi : i ∈ h.collections) :
    ∃ c, s.collections[i]? = some c :=
  ⟨_, List.getElem?_eq_getElem (hh.opened i hi)⟩

/-- What has been given out stays so. -/
theorem IsGiven.perform (hh : h.IsGiven s) (hs : s.IsConsistent) (b : Action) :
    h.IsGiven (s.perform b).2 where
  allocated id hid := by
    obtain ⟨hpos, hlt⟩ := Declarations.isAllocated_iff.1 (hh.allocated id hid)
    exact Declarations.isAllocated_iff.2 ⟨hpos, Nat.lt_of_lt_of_le hlt (hs.nextDataObject_le b)⟩
  opened i hi := Nat.lt_of_lt_of_le (hh.opened i hi) (hs.length_collections_le b)

/-- What is made has been given out. -/
theorem IsGiven.after (hh : h.IsGiven s) (hs : s.IsConsistent) (hstarted : 1 ≤ s.nextDataObject)
    (b : Action) : (h.after s b).IsGiven (s.perform b).2 := by
  have hperform := hh.perform hs b
  cases b with
  | describe | describeAs =>
    refine { hperform with allocated := List.forall_mem_append.2 ⟨hperform.allocated, ?_⟩ }
    refine List.forall_mem_singleton.2 (Declarations.isAllocated_iff.2 ⟨hstarted, ?_⟩)
    exact Nat.lt_succ_self _
  | openCollection =>
    refine { hperform with opened := List.forall_mem_append.2 ⟨hperform.opened, ?_⟩ }
    refine List.forall_mem_singleton.2 ?_
    simp [Declarations.perform]
  | _ => exact hperform

/-- Two operations hold nothing in common. -/
structure IsApart (h h' : Holdings) : Prop where
  objects : h.objects.Disjoint h'.objects
  collections : h.collections.Disjoint h'.collections

theorem IsApart.symm (hh : h.IsApart h') : h'.IsApart h :=
  ⟨List.disjoint_symm hh.objects, List.disjoint_symm hh.collections⟩

/-- What the one makes the other does not hold. -/
theorem IsApart.after (hh : h.IsApart h') (hgiven : h'.IsGiven s) (b : Action) :
    (h.after s b).IsApart h' := by
  cases b with
  | describe | describeAs =>
    exact
      { hh with
        objects :=
          List.disjoint_append_left.2 ⟨hh.objects, by simpa using hgiven.next_notMem⟩ }
  | openCollection =>
    exact
      { hh with
        collections :=
          List.disjoint_append_left.2 ⟨hh.collections, by simpa using hgiven.length_notMem⟩ }
  | _ => exact hh

/-- An action that the operation means is about what it holds. -/
theorem of_resolve {a : Action} (hb : h.resolve a = some b) :
    (∀ id, b.object? = some id → id ∈ h.objects) ∧
      (∀ i, b.collection? = some i → i ∈ h.collections) ∧ b.property? = a.property? := by
  have hobject {name id : DataObjectId} (hname : h.object? name = some id) : id ∈ h.objects := by
    obtain ⟨_ | n⟩ := name
    · cases hname
    · exact List.mem_of_getElem? hname
  cases a with
  | describe | describeAs | openCollection | checkLayout =>
    cases hb
    exact ⟨nofun, nofun, rfl⟩
  | setType name | addTransform name | declare name | attach p name =>
    obtain ⟨id, hname, rfl⟩ := Option.map_eq_some_iff.1 hb
    refine ⟨?_, nofun, rfl⟩
    rintro _ ⟨⟩
    exact hobject hname
  | register name k =>
    obtain ⟨id, hname, hb⟩ := Option.bind_eq_some_iff.1 hb
    obtain ⟨i, hk, rfl⟩ := Option.map_eq_some_iff.1 hb
    refine ⟨?_, ?_, rfl⟩
    · rintro _ ⟨⟩
      exact hobject hname
    · rintro _ ⟨⟩
      exact List.mem_of_getElem? hk
  | declareForAll k p =>
    obtain ⟨i, hk, rfl⟩ := Option.map_eq_some_iff.1 hb
    refine ⟨nofun, ?_, rfl⟩
    rintro _ ⟨⟩
    exact List.mem_of_getElem? hk

end Holdings

namespace Declarations

variable {s : Declarations} {h : Holdings} {own : DataObjectProperty → Prop} {a : Action}

/-! ## Separation -/

/-- What an operation has made has nothing to do with what others have made: a collection holds
data objects of one side, and a property targets data objects of one side. -/
structure Separates (s : Declarations) (h : Holdings) (own : DataObjectProperty → Prop) : Prop
    extends h.IsGiven s where
  consistent : s.IsConsistent
  started : 1 ≤ s.nextDataObject
  objects : h.objects.Nodup
  collections : h.collections.Nodup
  inside : ∀ {i c}, s.collections[i]? = some c →
    ∀ d ∈ c.objects, (d.id ∈ h.objects ↔ i ∈ h.collections)
  targetsAllocated : s.TargetsAllocated
  targets : ∀ {p id}, id ∈ s.table.ofProperty p → (id ∈ h.objects ↔ own p)

/-- Actions that name things of one side keep the sides apart. -/
theorem Separates.perform (hs : s.Separates h own) {mine : Prop} (ha : a.KeepsTo h own mine) :
    (s.perform a).2.Separates h own where
  toIsGiven := hs.toIsGiven.perform hs.consistent a
  consistent := hs.consistent.perform a
  started := Nat.le_trans hs.started (hs.consistent.nextDataObject_le a)
  objects := hs.objects
  collections := hs.collections
  inside {i c} hc d hd := by
    rcases hs.consistent.mem_collection_perform hc hd with ⟨c₀, d₀, hc₀, hd₀, hid⟩ | rfl
    · exact hid ▸ hs.inside hc₀ d₀ hd₀
    · exact (ha.object d.id rfl).trans (ha.collection i rfl).symm
  targetsAllocated := hs.consistent.targetsAllocated_perform hs.targetsAllocated a
  targets {p id} hid := by
    rcases hs.consistent.mem_targets_perform.1 hid with hid | ⟨-, rfl | rfl⟩
    · exact hs.targets hid
    · exact (ha.object id rfl).trans (ha.property p rfl).symm
    · exact (ha.object id rfl).trans (ha.property p rfl).symm

/-! ## What others do -/

/-- What is seen depends on what is the operation's own. -/
theorem seenBy_congr {s' : Declarations}
    (hdescriptions : s'.descriptions.filter (·.id ∈ h.objects) =
      s.descriptions.filter (·.id ∈ h.objects))
    (hcollections : ∀ i ∈ h.collections, s'.collections[i]? = s.collections[i]?)
    (htable : ∀ p, (s'.table.ofProperty p).filter (· ∈ h.objects) =
      (s.table.ofProperty p).filter (· ∈ h.objects)) :
    s'.seenBy h = s.seenBy h := by
  have hseen : (h.collections.map fun i => (s'.collections[i]?.getD {}).seenBy h) =
      h.collections.map fun i => (s.collections[i]?.getD {}).seenBy h :=
    List.map_congr_left fun i hi => by rw [hcollections i hi]
  simp only [seenBy, hdescriptions, hseen, TargetTable.seenBy, htable]

theorem Separates.seenBy_replace_of_foreign (hs : s.Separates h own) {d : DataObjectDescription}
    (hd : d.id ∉ h.objects) : (s.replace d).seenBy h = s.seenBy h := by
  have hne {o : DataObjectDescription} (ho : o.id ∈ h.objects) : o.id ≠ d.id :=
    fun hid => hd (hid ▸ ho)
  refine seenBy_congr ?_ (fun i hi => ?_) fun _ => rfl
  · simp only [replace, filter_replaceIn]
    exact replaceIn_of_notMem fun o ho => hne (of_decide_eq_true (List.mem_filter.1 ho).2)
  · simp only [replace, List.getElem?_map]
    cases hc : s.collections[i]? with
    | none => rfl
    | some c =>
      rw [Option.map_some, replaceIn_of_notMem fun o ho => hne ((hs.inside hc o ho).2 hi)]

theorem seenBy_push_of_foreign {id : DataObjectId} (hid : id ∉ h.objects)
    (p : DataObjectProperty) :
    ({ s with table := s.table.push p id } : Declarations).seenBy h = s.seenBy h := by
  refine seenBy_congr rfl (fun _ _ => rfl) fun q => ?_
  simp only [TargetTable.ofProperty_push]
  split_ifs with hq
  · rw [List.filter_append, hq, List.filter_singleton, decide_eq_false hid, cond_false,
      List.append_nil]
  · rfl

theorem filter_ne_of_foreign {id : DataObjectId} (hid : id ∉ h.objects)
    (l : List DataObjectDescription) :
    (l.filter (·.id != id)).filter (·.id ∈ h.objects) = l.filter (·.id ∈ h.objects) := by
  rw [List.filter_filter]
  refine List.filter_congr fun o _ => ?_
  by_cases ho : o.id ∈ h.objects
  · have hne : o.id ≠ id := fun heq => hid (heq ▸ ho)
    simp [ho, hne]
  · simp [ho]

/-- **What others do is not seen.** -/
theorem Separates.seenBy_perform_of_foreign (hs : s.Separates h own)
    (ha : a.KeepsTo h own False) : (s.perform a).2.seenBy h = s.seenBy h := by
  obtain ⟨o, s', heq, hchange⟩ := hs.consistent.change a
  rw [heq]
  have hapart {j i : Nat} (hj : a.collection? = some j) (hi : i ∈ h.collections) : j ≠ i :=
    fun hij => (ha.collection j hj).1 (hij ▸ hi)
  have hallocate (referenceId : DataObjectId → String) (uri : String) :
      (s.allocate referenceId uri).seenBy h = s.seenBy h := by
    refine seenBy_congr ?_ (fun _ _ => rfl) fun _ => rfl
    simp only [allocate, List.filter_append, List.filter_singleton, hs.next_notMem, decide_false,
      cond_false, List.append_nil]
  cases hchange with
  | unknown | checkLayout => rfl
  | refused =>
    cases a with
    | register id i =>
      refine seenBy_congr (filter_ne_of_foreign ?_ _) (fun _ _ => rfl) fun _ => rfl
      exact (ha.object id rfl).1
    | _ => rfl
  | describe uri => exact hallocate _ uri
  | describeAs referenceId uri => exact hallocate (fun _ => referenceId) uri
  | openCollection =>
    exact seenBy_congr rfl (fun i hi => List.getElem?_append_left (hs.opened i hi)) fun _ => rfl
  | setType | addTransform => exact hs.seenBy_replace_of_foreign (ha.object _ rfl).1
  | declare =>
    refine (seenBy_push_of_foreign (s := s.replace _) (ha.object _ rfl).1 _).trans ?_
    refine hs.seenBy_replace_of_foreign ?_
    rw [DataObjectDescription.id_withProperty]
    exact (ha.object _ rfl).1
  | attach => exact seenBy_push_of_foreign (ha.object _ rfl).1 _
  | @register d hd j c hc =>
    refine seenBy_congr (filter_ne_of_foreign (ha.object _ rfl).1 _) (fun i hi => ?_) fun _ => rfl
    exact List.getElem?_set_ne (hapart rfl hi)
  | @declareForAll j c hc p =>
    refine seenBy_congr rfl (fun i hi => ?_) fun _ => rfl
    exact List.getElem?_set_ne (hapart rfl hi)

end Declarations

end AdvancedSignature
