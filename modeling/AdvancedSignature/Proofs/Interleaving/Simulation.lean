import AdvancedSignature.Proofs.Interleaving.Separation

/-!
# What an operation does to what it sees

An action of an operation has the outcome that it would have if what the operation sees were all
there is, and it leaves the operation to see what it would leave then (`Separates.perform_seenBy`).
So neither the numbers of its data objects nor anything of others matters.
-/

namespace AdvancedSignature

namespace Declarations

variable {s : Declarations} {h : Holdings} {own : DataObjectProperty → Prop} {a b : Action}

/-! ## Finding and changing -/

namespace Separates

theorem mem_objects_seenBy (hs : s.Separates h own) {o : DataObjectDescription} :
    o ∈ (s.seenBy h).objects ↔ ∃ d ∈ s.objects, d.id ∈ h.objects ∧ d.seenBy h = o := by
  simp only [Declarations.objects, seenBy, List.mem_append, List.mem_map, List.mem_filter,
    List.mem_flatMap, decide_eq_true_iff]
  constructor
  · rintro (⟨d, ⟨hd, hown⟩, rfl⟩ | ⟨_, ⟨i, hi, rfl⟩, ho⟩)
    · exact ⟨d, Or.inl hd, hown, rfl⟩
    · obtain ⟨c, hc⟩ := hs.exists_collection hi
      rw [hc] at ho
      obtain ⟨d, hd, rfl⟩ := List.mem_map.1 ho
      exact ⟨d, Or.inr ⟨c, List.mem_of_getElem? hc, hd⟩, (hs.inside hc d hd).2 hi, rfl⟩
  · rintro ⟨d, hd | ⟨c, hc, hd⟩, hown, rfl⟩
    · exact Or.inl ⟨d, ⟨hd, hown⟩, rfl⟩
    · obtain ⟨i, hi⟩ := List.mem_iff_getElem?.1 hc
      refine Or.inr ⟨_, ⟨i, (hs.inside hi d hd).1 hown, rfl⟩, ?_⟩
      rw [hi]
      exact List.mem_map_of_mem hd

/-- A data object of the operation is found under its name. -/
theorem object?_seenBy (hs : s.Separates h own) {id : DataObjectId} (hid : id ∈ h.objects) :
    (s.seenBy h).object? (h.name id) = (s.object? id).map (·.seenBy h) := by
  have hfound {o : DataObjectDescription} (ho : (s.seenBy h).object? (h.name id) = some o) :
      ∃ d, s.object? id = some d ∧ d.seenBy h = o := by
    obtain ⟨d, hd, hown, rfl⟩ := hs.mem_objects_seenBy.1 (List.mem_of_find?_eq_some ho)
    have hname : (d.seenBy h).id = h.name id := by simpa using List.find?_some ho
    exact ⟨d, hs.consistent.object?_eq_some_iff.2 ⟨hd, (Holdings.name_eq_iff hown).1 hname⟩, rfl⟩
  cases ho : (s.seenBy h).object? (h.name id) with
  | some o =>
    obtain ⟨d, hd, rfl⟩ := hfound ho
    rw [hd, Option.map_some]
  | none =>
    cases hd : s.object? id with
    | none => rfl
    | some d =>
      obtain ⟨hmem, rfl⟩ := hs.consistent.object?_eq_some_iff.1 hd
      have hmissing := List.find?_eq_none.1 ho _ (hs.mem_objects_seenBy.2 ⟨d, hmem, hid, rfl⟩)
      exact absurd (beq_self_eq_true _) hmissing

/-- A description of the operation's own that is in no collection is found under its name. -/
theorem find?_seenBy {id : DataObjectId} (hid : id ∈ h.objects) :
    (s.seenBy h).descriptions.find? (fun d => d.id == h.name id) =
      (s.descriptions.find? fun d => d.id == id).map (·.seenBy h) := by
  rw [seenBy, List.find?_map, List.find?_filter]
  congr 2
  funext d
  have hname : h.name d.id = h.name id ↔ d.id = id :=
    eq_comm.trans ((Holdings.name_eq_iff hid).trans eq_comm)
  by_cases heq : d.id = id
  · simp [DataObjectDescription.seenBy, heq, hid]
  · simp [DataObjectDescription.seenBy, hname, heq]

theorem getElem?_collections_seenBy (hs : s.Separates h own) {k i : Nat}
    (hk : h.collections[k]? = some i) :
    ∃ c, s.collections[i]? = some c ∧ (s.seenBy h).collections[k]? = some (c.seenBy h) := by
  obtain ⟨c, hc⟩ := hs.exists_collection (List.mem_of_getElem? hk)
  refine ⟨c, hc, ?_⟩
  simp only [seenBy, List.getElem?_map, hk, Option.map_some, hc, Option.getD_some]

theorem seenBy_replace (hs : s.Separates h own) (d : DataObjectDescription) :
    (s.replace d).seenBy h = (s.seenBy h).replace (d.seenBy h) := by
  have hdescriptions := replaceIn_seenBy (h := h) (d := d)
    (l := s.descriptions.filter (·.id ∈ h.objects))
    fun o ho => of_decide_eq_true (List.mem_filter.1 ho).2
  simp only [Declarations.seenBy, Declarations.replace, filter_replaceIn, hdescriptions,
    List.map_map, Declarations.mk.injEq, true_and]
  refine List.map_congr_left fun i hi => ?_
  obtain ⟨c, hc⟩ := hs.exists_collection hi
  have hobjects := replaceIn_seenBy (d := d) fun o ho => (hs.inside hc o ho).2 hi
  simp only [List.getElem?_map, hc, Option.map_some, Option.getD_some, Function.comp_apply,
    SignedDataObjects.seenBy, hobjects]

theorem seenBy_setCollection (hs : s.Separates h own) {k i : Nat}
    (hk : h.collections[k]? = some i) (c : SignedDataObjects) :
    (h.collections.map fun j => ((s.collections.set i c)[j]?.getD {}).seenBy h) =
      (s.seenBy h).collections.set k (c.seenBy h) := by
  refine List.ext_getElem? fun j => ?_
  rw [List.getElem?_map, List.getElem?_set]
  by_cases hj : k = j
  · subst hj
    have hi := hs.opened i (List.mem_of_getElem? hk)
    have hlength : k < (s.seenBy h).collections.length := by
      simpa [seenBy] using (List.getElem?_eq_some_iff.1 hk).1
    simp only [hk, Option.map_some, List.getElem?_set_self hi, Option.getD_some, if_true, hlength]
  · rw [if_neg hj]
    simp only [seenBy, List.getElem?_map]
    cases hj' : h.collections[j]? with
    | none => rfl
    | some i' =>
      -- no collection has two names
      have hne : i ≠ i' := by
        rintro rfl
        have hlength := (List.getElem?_eq_some_iff.1 hk).1
        exact hj ((List.getElem?_inj hlength hs.collections).1 (hk.trans hj'.symm))
      simp only [Option.map_some, List.getElem?_set_ne hne]

/-! ## Making -/

/-- What is described next is seen last, under the next name. -/
theorem seenBy_allocate (hs : s.Separates h own) (referenceId uri : String) :
    (s.allocate (fun _ => referenceId) uri).seenBy (h.hold ⟨s.nextDataObject⟩) =
      (s.seenBy h).allocate (fun _ => referenceId) uri := by
  have hnext {id : DataObjectId} (hid : id.sequence < s.nextDataObject) :
      id ≠ ⟨s.nextDataObject⟩ := by
    rintro rfl
    exact Nat.lt_irrefl _ hid
  have htable : s.table.seenBy (h.hold ⟨s.nextDataObject⟩) = s.table.seenBy h :=
    TargetTable.seenBy_hold fun p hmem => hnext (hs.targetsAllocated p _ hmem) rfl
  have hdescriptions := descriptions_seenBy_hold (h := h) fun d hd =>
    hnext (hs.consistent.allocated d (List.mem_append_left _ hd))
  have hcollections : (h.collections.map fun i =>
      (s.collections[i]?.getD {}).seenBy (h.hold ⟨s.nextDataObject⟩)) =
        h.collections.map fun i => (s.collections[i]?.getD {}).seenBy h := by
    refine List.map_congr_left fun i hi => SignedDataObjects.seenBy_hold fun d hd => ?_
    obtain ⟨c, hc⟩ := hs.exists_collection hi
    rw [hc, Option.getD_some] at hd
    exact (hs.inside hc d hd).2 hi
  have hmem : (⟨s.nextDataObject⟩ : DataObjectId) ∈ (h.hold ⟨s.nextDataObject⟩).objects :=
    List.mem_append_right _ (List.mem_singleton.2 rfl)
  refine (Declarations.mk.injEq ..).mpr ⟨?_, htable, ?_, hcollections⟩
  · rw [Holdings.hold, List.length_append, List.length_singleton]
    rfl
  · change ((s.descriptions ++ [_]).filter _).map _ = _ ++ [_]
    rw [List.filter_append, List.map_append, hdescriptions, List.filter_singleton,
      decide_eq_true hmem, cond_true, List.map_singleton, DataObjectDescription.seenBy,
      Holdings.name_hold_self hs.next_notMem]
    rfl

/-- What is opened next is seen last. -/
theorem seenBy_open (hs : s.Separates h own) :
    ({ s with collections := s.collections ++ [({} : SignedDataObjects)] } :
        Declarations).seenBy (h.holdCollection s.collections.length) =
      { s.seenBy h with
        collections := (s.seenBy h).collections ++ [({} : SignedDataObjects)] } := by
  have hold : (h.collections.map fun i =>
      ((s.collections ++ [({} : SignedDataObjects)])[i]?.getD {}).seenBy h) =
        h.collections.map fun i => (s.collections[i]?.getD {}).seenBy h :=
    List.map_congr_left fun i hi => by rw [List.getElem?_append_left (hs.opened i hi)]
  have hlast : (s.collections ++ [({} : SignedDataObjects)])[s.collections.length]? =
      some {} := by
    rw [List.getElem?_append_right (Nat.le_refl _), Nat.sub_self]
    rfl
  refine (Declarations.mk.injEq ..).mpr ⟨rfl, rfl, rfl, ?_⟩
  change (h.collections ++ [_]).map (fun i => SignedDataObjects.seenBy h
    ((s.collections ++ [({} : SignedDataObjects)])[i]?.getD {})) = _
  rw [List.map_append, List.map_singleton, hlast, hold]
  rfl

/-! ## One action -/

theorem declareOn_seenBy (hs : s.Separates h own) {d : DataObjectDescription}
    (hd : d.id ∈ h.objects) {p : DataObjectProperty} (hp : own p) :
    (s.seenBy h).declareOn (d.seenBy h) p =
      ((s.declareOn d p).1, (s.declareOn d p).2.seenBy h) := by
  have hreplace := hs.seenBy_replace (d.declare s.table p).2.1
  have hdeclare : (d.seenBy h).declare (s.seenBy h).table p = _ :=
    DataObjectDescription.declare_seenBy (fun id hid => (hs.targets hid).2 hp) hd
  simp only [declareOn, hdeclare, ← hreplace]
  rfl

theorem registerIn_seenBy (hs : s.Separates h own) (d : DataObjectDescription) {k i : Nat}
    (hk : h.collections[k]? = some i) (c : SignedDataObjects) :
    (s.seenBy h).registerIn (d.seenBy h) k (c.seenBy h) =
      ((s.registerIn d i c).1, (s.registerIn d i c).2.seenBy h) := by
  have hrest : (s.seenBy h).descriptions.filter (·.id != (d.seenBy h).id) =
      ((s.descriptions.filter (·.id != d.id)).filter (·.id ∈ h.objects)).map (·.seenBy h) := by
    rw [seenBy, List.filter_map, List.filter_filter, List.filter_filter]
    refine congrArg _ (List.filter_congr fun o _ => ?_)
    by_cases ho : o.id ∈ h.objects
    · have hname : (o.seenBy h).id = (d.seenBy h).id ↔ o.id = d.id := Holdings.name_eq_iff ho
      simp only [Function.comp_apply, ho, decide_true, Bool.and_true, Bool.true_and, bne, hname,
        beq_eq_decide]
    · simp only [ho, decide_false, Bool.and_false, Bool.false_and]
  simp only [registerIn, SignedDataObjects.add_seenBy, hrest]
  cases c.add d with
  | error e => rfl
  | ok c' =>
    exact congrArg (Prod.mk _)
      ((Declarations.mk.injEq ..).mpr ⟨rfl, rfl, rfl, (hs.seenBy_setCollection hk c').symm⟩)

/-- **An action of the operation is an action on what it sees**: it has the same outcome, and what
is seen afterwards is the same. -/
theorem perform_seenBy (hs : s.Separates h own) (hb : h.resolve a = some b)
    (hown : ∀ p, a.property? = some p → own p) (hdescribe : ∀ uri, a ≠ .describe uri)
    (hcheck : ∀ l, a ≠ .checkLayout l) :
    (s.seenBy h).perform a = ((s.perform b).1, (s.perform b).2.seenBy (h.after s b)) := by
  cases a with
  | describe uri => exact absurd rfl (hdescribe uri)
  | checkLayout l => exact absurd rfl (hcheck l)
  | describeAs referenceId uri =>
    cases hb
    exact congrArg (Prod.mk _) (hs.seenBy_allocate referenceId uri).symm
  | openCollection =>
    cases hb
    exact congrArg (Prod.mk _) hs.seenBy_open.symm
  | setType name referenceType =>
    obtain ⟨id, hname, rfl⟩ := Option.map_eq_some_iff.1 hb
    obtain ⟨hid, rfl⟩ := Holdings.of_object?_eq_some hs.objects hname
    simp only [Declarations.perform, hs.object?_seenBy hid]
    cases s.object? id with
    | none => rfl
    | some d => exact congrArg (Prod.mk _) (hs.seenBy_replace (d.withType referenceType)).symm
  | addTransform name t =>
    obtain ⟨id, hname, rfl⟩ := Option.map_eq_some_iff.1 hb
    obtain ⟨hid, rfl⟩ := Holdings.of_object?_eq_some hs.objects hname
    simp only [Declarations.perform, hs.object?_seenBy hid]
    cases s.object? id with
    | none => rfl
    | some d =>
      simp only [Option.map_some, DataObjectDescription.addTransform_seenBy]
      cases d.addTransform t with
      | error e => rfl
      | ok d' => exact congrArg (Prod.mk _) (hs.seenBy_replace d').symm
  | declare name p =>
    obtain ⟨id, hname, rfl⟩ := Option.map_eq_some_iff.1 hb
    obtain ⟨hid, rfl⟩ := Holdings.of_object?_eq_some hs.objects hname
    simp only [Declarations.perform, hs.object?_seenBy hid]
    cases hd : s.object? id with
    | none => rfl
    | some d =>
      obtain ⟨-, rfl⟩ := hs.consistent.object?_eq_some_iff.1 hd
      exact hs.declareOn_seenBy hid (hown p rfl)
  | attach p name =>
    obtain ⟨id, hname, rfl⟩ := Option.map_eq_some_iff.1 hb
    obtain ⟨hid, rfl⟩ := Holdings.of_object?_eq_some hs.objects hname
    have hallocated : (s.seenBy h).isAllocated (h.name id) = true :=
      isAllocated_iff.2 (Holdings.isSome_object?_iff.1 (Option.isSome_of_eq_some hname))
    have hattach : (s.seenBy h).table.attach p (h.name id) = _ :=
      TargetTable.attach_seenBy (fun id hid => (hs.targets hid).2 (hown p rfl)) hid
    simp only [Declarations.perform, hallocated, hs.allocated id hid, if_true, hattach]
    cases s.table.attach p id <;> rfl
  | register name k =>
    obtain ⟨id, hname, hb⟩ := Option.bind_eq_some_iff.1 hb
    obtain ⟨i, hk, rfl⟩ := Option.map_eq_some_iff.1 hb
    obtain ⟨hid, rfl⟩ := Holdings.of_object?_eq_some hs.objects hname
    obtain ⟨c, hc, hseen⟩ := hs.getElem?_collections_seenBy hk
    simp only [Declarations.perform, find?_seenBy hid, hseen, hc]
    cases s.descriptions.find? fun d => d.id == id with
    | none => rfl
    | some d => exact hs.registerIn_seenBy d hk c
  | declareForAll k p =>
    obtain ⟨i, hk, rfl⟩ := Option.map_eq_some_iff.1 hb
    obtain ⟨c, hc, hseen⟩ := hs.getElem?_collections_seenBy hk
    simp only [Declarations.perform, hseen, hc, SignedDataObjects.declareForAll_seenBy]
    cases c.declareForAll p with
    | error e => rfl
    | ok c' =>
      exact congrArg (Prod.mk _)
        ((Declarations.mk.injEq ..).mpr ⟨rfl, rfl, rfl, (hs.seenBy_setCollection hk c').symm⟩)

/-- A name that the operation has not given is the name of nothing that it sees. -/
theorem ne_of_object?_eq_none (hs : s.Separates h own) {name : DataObjectId}
    (hname : h.object? name = none) : ∀ o ∈ (s.seenBy h).objects, ¬ (o.id == name) = true := by
  intro o ho heq
  obtain ⟨d, -, hown, rfl⟩ := hs.mem_objects_seenBy.1 ho
  have hfound : h.object? (d.seenBy h).id = some d.id := Holdings.object?_name hown
  rw [eq_of_beq heq, hname] at hfound
  cases hfound

/-- An action about something that the operation has not made is about nothing that it sees. -/
theorem perform_seenBy_of_resolve_eq_none (hs : s.Separates h own) (hb : h.resolve a = none) :
    (s.seenBy h).perform a = (.unknown, s.seenBy h) := by
  have hobject {name : DataObjectId} (hname : h.object? name = none) :
      (s.seenBy h).object? name = none :=
    List.find?_eq_none.2 (hs.ne_of_object?_eq_none hname)
  have hcollection {k : Nat} (hk : h.collections[k]? = none) :
      (s.seenBy h).collections[k]? = none := by
    rw [seenBy, List.getElem?_map, hk, Option.map_none]
  cases a with
  | describe | describeAs | openCollection | checkLayout => cases hb
  | setType name | addTransform name | declare name =>
    simp only [Declarations.perform, hobject (Option.map_eq_none_iff.1 hb)]
  | attach p name =>
    have hallocated : ¬ (s.seenBy h).isAllocated name = true := fun hallocated => by
      have hname := Holdings.isSome_object?_iff.2 (isAllocated_iff.1 hallocated)
      rw [Option.map_eq_none_iff.1 hb] at hname
      cases hname
    exact if_neg hallocated
  | register name k =>
    simp only [Declarations.perform]
    cases hname : h.object? name with
    | none =>
      have hmissing : (s.seenBy h).descriptions.find? (fun d => d.id == name) = none :=
        List.find?_eq_none.2 fun o ho =>
          hs.ne_of_object?_eq_none hname o (List.mem_append_left _ ho)
      rw [hmissing]
    | some id =>
      have hk : h.collections[k]? = none := by
        simpa [Holdings.resolve, Action.rename?, hname] using hb
      rw [hcollection hk]
      cases (s.seenBy h).descriptions.find? (fun d => d.id == name) <;> rfl
  | declareForAll k p =>
    simp only [Declarations.perform, hcollection (Option.map_eq_none_iff.1 hb)]

/-! ## What the operation has made -/

/-- The operation may take note of a data object that nothing mentions. -/
theorem hold (hs : s.Separates h own) {new : DataObjectId} (hnew : s.isAllocated new = true)
    (hobject : new ∉ h.objects) (hinside : ∀ c ∈ s.collections, ∀ d ∈ c.objects, d.id ≠ new)
    (htargets : ∀ p, new ∉ s.table.ofProperty p) : s.Separates (h.hold new) own :=
  { hs with
    objects := hs.objects.append (List.nodup_singleton new) (by simpa using hobject)
    allocated := List.forall_mem_append.2 ⟨hs.allocated, List.forall_mem_singleton.2 hnew⟩
    inside := fun hc d hd =>
      (Holdings.mem_hold_iff (hinside _ (List.mem_of_getElem? hc) d hd)).trans (hs.inside hc d hd)
    targets := fun {p id} hid => by
      have hne : id ≠ new := fun heq => htargets p (heq ▸ hid)
      exact (Holdings.mem_hold_iff hne).trans (hs.targets hid) }

/-- The operation may take note of a collection that is empty. -/
theorem holdCollection (hs : s.Separates h own) {i : Nat} (hi : i < s.collections.length)
    (hnew : i ∉ h.collections) (hempty : ∀ c, s.collections[i]? = some c → c.objects = []) :
    s.Separates (h.holdCollection i) own :=
  { hs with
    collections := hs.collections.append (List.nodup_singleton i) (by simpa using hnew)
    opened := List.forall_mem_append.2 ⟨hs.opened, List.forall_mem_singleton.2 hi⟩
    inside := fun {j c} hc d hd => by
      have hne : j ≠ i := by
        rintro rfl
        simp [hempty c hc] at hd
      simpa [Holdings.holdCollection, hne] using hs.inside hc d hd }

/-- An action of the operation keeps what it has made then apart from what others have made. -/
theorem perform_after (hs : s.Separates h own) (hb : b.KeepsTo h own True) :
    (s.perform b).2.Separates (h.after s b) own := by
  have hperform := hs.perform hb
  have hallocate (referenceId : DataObjectId → String) (uri : String)
      (hs' : (s.allocate referenceId uri).Separates h own) :
      (s.allocate referenceId uri).Separates (h.hold ⟨s.nextDataObject⟩) own := by
    refine hs'.hold (isAllocated_iff.2 ⟨hs.started, Nat.lt_succ_self _⟩) hs.next_notMem
      (fun c hc d hd hid => ?_) fun p hmem => ?_
    · have hlt := hs.consistent.allocated d
        (List.mem_append_right _ (List.mem_flatMap.2 ⟨c, hc, hd⟩))
      rw [hid] at hlt
      exact Nat.lt_irrefl _ hlt
    · exact Nat.lt_irrefl _ (hs.targetsAllocated p _ hmem)
  cases b with
  | describe uri => exact hallocate _ uri hperform
  | describeAs referenceId uri => exact hallocate (fun _ => referenceId) uri hperform
  | openCollection =>
    refine hperform.holdCollection ?_ hs.length_notMem fun c hc => ?_
    · simp [Declarations.perform]
    · simp only [Declarations.perform, List.getElem?_append_right (Nat.le_refl _), Nat.sub_self,
        List.getElem?_cons_zero, Option.some.injEq] at hc
      exact hc ▸ rfl
  | _ => exact hperform

end Separates

end Declarations

end AdvancedSignature
