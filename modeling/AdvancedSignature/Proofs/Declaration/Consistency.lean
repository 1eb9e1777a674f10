import AdvancedSignature.Declaration.Run
import AdvancedSignature.Proofs.Declaration.Collection
import AdvancedSignature.Proofs.Keys
import Mathlib.Data.List.Perm.Basic

/-!
# Consistent declarations

`Declarations.IsConsistent` says that data objects have identities of their own, that a property is
held only by data objects that it targets, that target sets respect the multiplicities, and that
collections keep their reference identifiers distinct.  What the actions do to the state keeps it:
replacing a description, recording a target, describing a data object, moving it to a collection.
-/

namespace AdvancedSignature

namespace Declarations

/-- Every data object, in a collection or not. -/
def objects (s : Declarations) : List DataObjectDescription :=
  s.descriptions ++ s.collections.flatMap SignedDataObjects.objects

/-- Data objects have identities of their own, which have been given out, and everything is in
order with them, with the collections and with the targets. -/
structure IsConsistent (s : Declarations) : Prop where
  ids : (s.objects.map DataObjectDescription.id).Nodup
  allocated : ∀ d ∈ s.objects, d.id.sequence < s.nextDataObject
  objects : ∀ d ∈ s.objects, d.IsConsistent s.table
  collections : ∀ c ∈ s.collections, c.IsConsistent
  table : s.table.IsConsistent

variable {s : Declarations}

/-- Before the first action, wherever the numbers start. -/
theorem isConsistent_start (first : Nat) : IsConsistent { nextDataObject := first } where
  ids := List.nodup_nil
  allocated := by simp [Declarations.objects]
  objects := by simp [Declarations.objects]
  collections := by simp
  table := TargetTable.isConsistent_empty

/-- A data object is found by its identity. -/
theorem IsConsistent.object?_eq_some_iff (hs : s.IsConsistent) {id : DataObjectId}
    {d : DataObjectDescription} : s.object? id = some d ↔ d ∈ s.objects ∧ d.id = id :=
  find?_key_eq_some_iff hs.ids

/-- The data objects that are in no collection have identities of their own. -/
theorem IsConsistent.ids_descriptions (hs : s.IsConsistent) :
    (s.descriptions.map DataObjectDescription.id).Nodup :=
  hs.ids.sublist ((List.sublist_append_left _ _).map _)

/-- The data objects of one collection have identities of their own. -/
theorem IsConsistent.ids_collection (hs : s.IsConsistent) {c : SignedDataObjects}
    (hc : c ∈ s.collections) : (c.objects.map DataObjectDescription.id).Nodup := by
  have hsub : c.objects.Sublist (s.collections.flatMap SignedDataObjects.objects) :=
    List.sublist_flatten_of_mem (List.mem_map_of_mem hc)
  exact hs.ids.sublist ((hsub.trans (List.sublist_append_right _ _)).map _)

/-! ## Replacing a description -/

theorem mem_replaceIn {d o : DataObjectDescription} {l : List DataObjectDescription}
    (h : o ∈ replaceIn d l) : o = d ∨ o ∈ l := by
  obtain ⟨o', ho', rfl⟩ := List.mem_map.1 h
  split_ifs
  · exact Or.inl rfl
  · exact Or.inr ho'

theorem objects_replace (s : Declarations) (d : DataObjectDescription) :
    (s.replace d).objects = replaceIn d s.objects := by
  simp only [Declarations.objects, replace, replaceIn, List.map_append, List.map_flatMap,
    List.flatMap_map]

/-- A field that the new description shares with the one in whose place it is put. -/
theorem map_replaceIn {α : Type} (f : DataObjectDescription → α) {d : DataObjectDescription}
    {l : List DataObjectDescription} (h : ∀ o ∈ l, o.id = d.id → f o = f d) :
    (replaceIn d l).map f = l.map f := by
  rw [replaceIn, List.map_map]
  refine List.map_congr_left fun o ho => ?_
  by_cases hid : o.id = d.id
  · simp [hid, h o ho hid]
  · simp [hid]

/-- Putting the same description in its own place changes nothing. -/
theorem IsConsistent.replace_self (hs : s.IsConsistent) {d : DataObjectDescription}
    (hd : d ∈ s.objects) : s.replace d = s := by
  have hself {l : List DataObjectDescription} (hl : ∀ o ∈ l, o ∈ s.objects) :
      replaceIn d l = l := by
    refine (List.map_congr_left fun o ho => ?_).trans (List.map_id l)
    split_ifs with hid
    · exact List.inj_on_of_nodup_map hs.ids hd (hl o ho) hid.symm
    · rfl
  have hdescriptions : replaceIn d s.descriptions = s.descriptions :=
    hself fun o ho => List.mem_append_left _ ho
  have hcollections : (s.collections.map fun c => { c with objects := replaceIn d c.objects }) =
      s.collections := by
    refine (List.map_congr_left fun c hc => ?_).trans (List.map_id _)
    have hobjects : replaceIn d c.objects = c.objects :=
      hself fun o ho => List.mem_append_right _ (List.mem_flatMap.2 ⟨c, hc, ho⟩)
    rw [hobjects]
    rfl
  simp only [replace, hdescriptions, hcollections]

theorem IsConsistent.replace (hs : s.IsConsistent) {d d' : DataObjectDescription}
    (hd : d ∈ s.objects) (hid : d'.id = d.id) (hreference : d'.referenceId = d.referenceId)
    (hd' : d'.IsConsistent s.table) : (s.replace d').IsConsistent where
  ids := by
    rw [objects_replace, map_replaceIn _ fun o _ h => h]
    exact hs.ids
  allocated o ho := by
    rw [objects_replace] at ho
    rcases mem_replaceIn ho with rfl | ho
    · exact hid ▸ hs.allocated d hd
    · exact hs.allocated o ho
  objects o ho := by
    rw [objects_replace] at ho
    rcases mem_replaceIn ho with rfl | ho
    · exact hd'
    · exact hs.objects o ho
  collections c' hc' := by
    obtain ⟨c, hc, rfl⟩ := List.mem_map.1 hc'
    -- the new description stands in the place of one with the same reference
    have hids : (replaceIn d' c.objects).map DataObjectDescription.referenceId =
        c.referenceIds := by
      refine map_replaceIn _ fun o ho h => ?_
      have hmem : o ∈ s.objects := List.mem_append_right _ (List.mem_flatMap.2 ⟨c, hc, ho⟩)
      rw [List.inj_on_of_nodup_map hs.ids hmem hd (h.trans hid), hreference]
    have hc := hs.collections c hc
    exact
      { hc with
        referenceIds := by
          change ((replaceIn d' c.objects).map DataObjectDescription.referenceId).Nodup
          rw [hids]
          exact hc.referenceIds }
  table := hs.table

/-! ## Moving descriptions about -/

/-- A description can be left out or moved, and numbers and collections can be added, as long as
the collections are in order. -/
theorem IsConsistent.of_subperm (hs : s.IsConsistent) {s' : Declarations}
    (hobjects : s'.objects.Subperm s.objects) (hnext : s.nextDataObject ≤ s'.nextDataObject)
    (hcollections : ∀ c ∈ s'.collections, c.IsConsistent) (htable : s'.table = s.table) :
    s'.IsConsistent where
  ids := by
    obtain ⟨l, hperm, hsub⟩ := hobjects
    exact (hperm.map _).nodup_iff.1 (hs.ids.sublist (hsub.map _))
  allocated d hd := Nat.lt_of_lt_of_le (hs.allocated d (hobjects.subset hd)) hnext
  objects d hd := htable ▸ hs.objects d (hobjects.subset hd)
  collections := hcollections
  table := htable ▸ hs.table

/-- Replacing a collection by one with more data objects adds these. -/
theorem flatMap_set_perm {c c' : SignedDataObjects} (more : List DataObjectDescription)
    (hc : c'.objects.Perm (more ++ c.objects)) {l : List SignedDataObjects} {i : Nat}
    (h : l[i]? = some c) :
    ((l.set i c').flatMap SignedDataObjects.objects).Perm
      (more ++ l.flatMap SignedDataObjects.objects) := by
  induction l generalizing i with
  | nil => simp at h
  | cons first rest ih =>
    cases i with
    | zero =>
      obtain rfl : first = c := by simpa using h
      simpa [List.append_assoc] using hc.append_right (rest.flatMap SignedDataObjects.objects)
    | succ i =>
      have hrest := @ih i (by simpa using h)
      rw [List.set_cons_succ, List.flatMap_cons, List.flatMap_cons]
      exact (hrest.append_left first.objects).trans (by
        rw [← List.append_assoc, ← List.append_assoc]
        exact List.perm_append_comm.append_right _)

theorem collections_set {P : SignedDataObjects → Prop} {l : List SignedDataObjects}
    (h : ∀ c ∈ l, P c) {c : SignedDataObjects} (hc : P c) (i : Nat) : ∀ o ∈ l.set i c, P o := by
  intro o ho
  rcases List.mem_or_eq_of_mem_set ho with ho | rfl
  · exact h o ho
  · exact hc

/-! ## What the actions do -/

theorem IsConsistent.push (hs : s.IsConsistent) {p : DataObjectProperty} {id : DataObjectId}
    (h : (s.table.targetSet p).Accepts id) :
    IsConsistent { s with table := s.table.push p id } :=
  { ids := hs.ids
    allocated := hs.allocated
    objects := fun d hd => (hs.objects d hd).push p id
    collections := hs.collections
    table := hs.table.push h }

/-- Where a data object is described, there is the new description or one from before. -/
theorem mem_objects_allocate {referenceId : DataObjectId → String} {uri : String}
    {o : DataObjectDescription} (ho : o ∈ (s.allocate referenceId uri).objects) :
    o ∈ s.objects ∨
      o = { id := ⟨s.nextDataObject⟩, referenceId := referenceId ⟨s.nextDataObject⟩, uri } := by
  simp only [allocate, Declarations.objects, List.mem_append, List.mem_singleton] at ho
  rcases ho with (ho | rfl) | ho
  · exact Or.inl (List.mem_append_left _ ho)
  · exact Or.inr rfl
  · exact Or.inl (List.mem_append_right _ ho)

theorem IsConsistent.allocate (hs : s.IsConsistent) (referenceId : DataObjectId → String)
    (uri : String) : (s.allocate referenceId uri).IsConsistent := by
  let id : DataObjectId := ⟨s.nextDataObject⟩
  let new : DataObjectDescription := { id, referenceId := referenceId id, uri }
  have hperm : (s.allocate referenceId uri).objects.Perm (new :: s.objects) :=
    ((List.perm_append_singleton new s.descriptions).append_right _)
  have hfresh : id ∉ s.objects.map DataObjectDescription.id := by
    intro h
    obtain ⟨d, hd, hid⟩ := List.mem_map.1 h
    have hlt := hs.allocated d hd
    rw [hid] at hlt
    exact Nat.lt_irrefl _ hlt
  have hnew : new.IsConsistent s.table :=
    ⟨DataObjectProperty.isSplit_empty, by simp [new, DataObjectDescription.Holds]⟩
  exact
    { ids := (hperm.map _).nodup_iff.2 (List.nodup_cons.2 ⟨hfresh, hs.ids⟩)
      allocated := fun d hd => by
        rcases List.mem_cons.1 (hperm.mem_iff.1 hd) with rfl | hd
        · exact Nat.lt_succ_self _
        · exact Nat.lt_succ_of_lt (hs.allocated d hd)
      objects := fun d hd => by
        rcases List.mem_cons.1 (hperm.mem_iff.1 hd) with rfl | hd
        · exact hnew
        · exact hs.objects d hd
      collections := hs.collections
      table := hs.table }

/-- A declaration on a data object is refused and changes nothing, or it adds the property to the
data object and the data object to the targets of the property. -/
theorem IsConsistent.declareOn_cases (hs : s.IsConsistent) {d : DataObjectDescription}
    (hd : d ∈ s.objects) (p : DataObjectProperty) :
    (¬ ((d.bagFor p).Admits p ∧ (s.table.targetSet p).Accepts d.id) ∧
      ∃ e : Error, e.IsRefusal ∧ s.declareOn d p = (.refused e, s)) ∨
    (((d.bagFor p).Admits p ∧ (s.table.targetSet p).Accepts d.id) ∧
      s.declareOn d p =
        (.accepted, { s.replace (d.withProperty p) with table := s.table.push p d.id })) := by
  rcases (hs.objects d hd).declare_cases p with ⟨hnot, e, he, heq⟩ | ⟨htaken, heq⟩
  · refine Or.inl ⟨hnot, e, he, ?_⟩
    simp only [declareOn, heq, Outcome.ofExcept, hs.replace_self hd]
  · refine Or.inr ⟨htaken, ?_⟩
    simp only [declareOn, heq, Outcome.ofExcept]

theorem IsConsistent.declare (hs : s.IsConsistent) {d : DataObjectDescription} (hd : d ∈ s.objects)
    {p : DataObjectProperty} (hadmits : (d.bagFor p).Admits p)
    (haccepts : (s.table.targetSet p).Accepts d.id) :
    IsConsistent { s.replace (d.withProperty p) with table := s.table.push p d.id } :=
  (hs.push haccepts).replace hd (DataObjectDescription.id_withProperty d p)
    (DataObjectDescription.referenceId_withProperty d p) ((hs.objects d hd).withProperty hadmits)

/-- Handing over a description is refused and loses it, or it moves the description to the end of
the collection. -/
theorem registerIn_cases (s : Declarations) (d : DataObjectDescription) (i : Nat)
    (c : SignedDataObjects) :
    (∃ e : Error, e.IsRefusal ∧ s.registerIn d i c =
      (.refused e, { s with descriptions := s.descriptions.filter (·.id != d.id) })) ∨
      (d.referenceId ∉ c.referenceIds ∧ s.registerIn d i c =
        (.accepted,
          { s with
            descriptions := s.descriptions.filter (·.id != d.id)
            collections := s.collections.set i { c with objects := c.objects ++ [d] } })) := by
  by_cases hmem : d.referenceId ∈ c.referenceIds
  · refine Or.inl ⟨.duplicateDataObject d.referenceId, ⟨rfl, by simp⟩, ?_⟩
    simp only [registerIn, SignedDataObjects.add_eq, hmem, if_true]
  · exact Or.inr ⟨hmem, by simp only [registerIn, SignedDataObjects.add_eq, hmem, if_false]⟩

theorem IsConsistent.drop (hs : s.IsConsistent) (id : DataObjectId) :
    IsConsistent { s with descriptions := s.descriptions.filter (·.id != id) } :=
  hs.of_subperm (List.filter_sublist.append_right _).subperm (Nat.le_refl _) hs.collections rfl

/-- Moving a description to a collection makes no data object. -/
theorem IsConsistent.objects_register_subperm (hs : s.IsConsistent) {d : DataObjectDescription}
    (hd : d ∈ s.descriptions) {i : Nat} {c : SignedDataObjects}
    (hc : s.collections[i]? = some c) :
    (s.descriptions.filter (·.id != d.id) ++
      (s.collections.set i { c with objects := c.objects ++ [d] }).flatMap
        SignedDataObjects.objects).Subperm s.objects := by
  let c' : SignedDataObjects := { c with objects := c.objects ++ [d] }
  -- the description enters the one list as it leaves the other
  have hset := flatMap_set_perm [d] (show c'.objects.Perm _ from List.perm_append_comm) hc
  have hrest : (s.descriptions.filter (·.id != d.id) ++ [d]).Subperm s.descriptions := by
    refine List.subperm_of_subset (List.Nodup.append ?_ (List.nodup_singleton d) ?_) ?_
    · exact hs.ids_descriptions.of_map.filter _
    · simp
    · exact List.append_subset.2 ⟨List.filter_subset_self _, by simpa using hd⟩
  refine (hset.append_left _).subperm.trans ?_
  rw [← List.append_assoc]
  exact (List.subperm_append_right _).2 hrest

theorem IsConsistent.register (hs : s.IsConsistent) {d : DataObjectDescription}
    (hd : d ∈ s.descriptions) {i : Nat} {c : SignedDataObjects} (hc : s.collections[i]? = some c)
    (hnew : d.referenceId ∉ c.referenceIds) :
    IsConsistent
      { s with
        descriptions := s.descriptions.filter (·.id != d.id)
        collections := s.collections.set i { c with objects := c.objects ++ [d] } } := by
  have hmem := List.mem_of_getElem? hc
  refine hs.of_subperm (hs.objects_register_subperm hd hc) (Nat.le_refl _) ?_ rfl
  exact collections_set hs.collections ((hs.collections c hmem).add hnew) i

/-- A property for all data objects makes no data object. -/
theorem objects_set_withProperty {i : Nat} {c : SignedDataObjects}
    (hc : s.collections[i]? = some c) {p : DataObjectProperty} :
    (s.descriptions ++ (s.collections.set i (c.withProperty p)).flatMap
      SignedDataObjects.objects).Perm s.objects := by
  have hobjects : (c.withProperty p).objects.Perm ([] ++ c.objects) := by simp
  exact (flatMap_set_perm [] hobjects hc).append_left s.descriptions

theorem IsConsistent.declareForAll (hs : s.IsConsistent) {i : Nat} {c : SignedDataObjects}
    (hc : s.collections[i]? = some c) {p : DataObjectProperty} (hall : p.multiplicity = .all)
    (hadmits : (c.bagFor p).Admits p) :
    IsConsistent { s with collections := s.collections.set i (c.withProperty p) } := by
  have hmem := List.mem_of_getElem? hc
  refine hs.of_subperm (objects_set_withProperty hc).subperm (Nat.le_refl _) ?_ rfl
  exact collections_set hs.collections ((hs.collections c hmem).withProperty hall hadmits) i

end Declarations

end AdvancedSignature
