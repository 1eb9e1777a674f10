import AdvancedSignature.Proofs.Declaration.Consistency
import AdvancedSignature.Proofs.Layout.Replay

/-!
# What actions do

`Declarations.Change` lists what can come of an action in consistent declarations: nothing, a
refusal, or the one change that the action asks for, with what must hold for it to be accepted.
Every action makes such a change (`IsConsistent.change`), and whatever is true of all changes is
read off the list.

* `IsConsistent.run`: declarations stay consistent.
* `IsConsistent.holds_of_run`: only declared properties are held.
-/

namespace AdvancedSignature

/-- The property that an action declares. -/
def Action.declared? : Action → Option DataObjectProperty
  | .declare _ p | .declareForAll _ p => some p
  | _ => none

namespace Declarations

/-! ## Changes -/

/-- The state after an action is refused.  A description that was handed over is gone, and a check
keeps the numbers that it has taken. -/
def afterRefusal (s : Declarations) : Action → Declarations
  | .register id _ => { s with descriptions := s.descriptions.filter (·.id != id) }
  | .checkLayout layout =>
      { s with nextDataObject := s.nextDataObject + layout.references.length }
  | _ => s

/-- What can come of an action. -/
inductive Change (s : Declarations) : Action → Outcome → Declarations → Prop
  | unknown (a : Action) : Change s a .unknown s
  | refused (a : Action) {e : Error} (he : e.IsRefusal) :
      Change s a (.refused e) (s.afterRefusal a)
  | describe (uri : String) :
      Change s (.describe uri) .accepted
        (s.allocate DataObjectDescription.generatedReferenceId uri)
  | describeAs (referenceId uri : String) :
      Change s (.describeAs referenceId uri) .accepted (s.allocate (fun _ => referenceId) uri)
  | openCollection :
      Change s .openCollection .accepted { s with collections := s.collections ++ [{}] }
  | setType {d : DataObjectDescription} (hd : d ∈ s.objects) (referenceType : String) :
      Change s (.setType d.id referenceType) .accepted (s.replace (d.withType referenceType))
  | addTransform {d : DataObjectDescription} (hd : d ∈ s.objects) {t : AlgorithmInstance}
      (ht : t ∉ d.transforms) :
      Change s (.addTransform d.id t) .accepted
        (s.replace { d with transforms := d.transforms ++ [t] })
  | declare {d : DataObjectDescription} (hd : d ∈ s.objects) {p : DataObjectProperty}
      (hadmits : (d.bagFor p).Admits p) (haccepts : (s.table.targetSet p).Accepts d.id) :
      Change s (.declare d.id p) .accepted
        { s.replace (d.withProperty p) with table := s.table.push p d.id }
  | attach {p : DataObjectProperty} {id : DataObjectId} (hid : s.isAllocated id = true)
      (haccepts : (s.table.targetSet p).Accepts id) :
      Change s (.attach p id) .accepted { s with table := s.table.push p id }
  | register {d : DataObjectDescription} (hd : d ∈ s.descriptions) {i : Nat}
      {c : SignedDataObjects} (hc : s.collections[i]? = some c)
      (hnew : d.referenceId ∉ c.referenceIds) :
      Change s (.register d.id i) .accepted
        { s with
          descriptions := s.descriptions.filter (·.id != d.id)
          collections := s.collections.set i { c with objects := c.objects ++ [d] } }
  | declareForAll {i : Nat} {c : SignedDataObjects} (hc : s.collections[i]? = some c)
      {p : DataObjectProperty} (hall : p.multiplicity = .all) (hadmits : (c.bagFor p).Admits p) :
      Change s (.declareForAll i p) .accepted
        { s with collections := s.collections.set i (c.withProperty p) }
  | checkLayout {l : PropertyLayout} (hl : l.checkFrom s.nextDataObject = .ok ()) :
      Change s (.checkLayout l) .accepted
        { s with nextDataObject := s.nextDataObject + l.references.length }

variable {s : Declarations}

/-- Every action makes a change of the list. -/
theorem IsConsistent.change (hs : s.IsConsistent) (a : Action) :
    ∃ o s', s.perform a = (o, s') ∧ s.Change a o s' := by
  -- an action about something that is not there is without effect, whatever it is
  cases a with
  | describe uri => exact ⟨_, _, rfl, .describe uri⟩
  | describeAs referenceId uri => exact ⟨_, _, rfl, .describeAs referenceId uri⟩
  | openCollection => exact ⟨_, _, rfl, .openCollection⟩
  | setType id referenceType =>
    cases hd : s.object? id with
    | none => exact ⟨_, _, by simp only [perform, hd], .unknown _⟩
    | some d =>
      obtain ⟨hmem, rfl⟩ := hs.object?_eq_some_iff.1 hd
      exact ⟨_, _, by simp only [perform, hd], .setType hmem referenceType⟩
  | addTransform id t =>
    cases hd : s.object? id with
    | none => exact ⟨_, _, by simp only [perform, hd], .unknown _⟩
    | some d =>
      obtain ⟨hmem, rfl⟩ := hs.object?_eq_some_iff.1 hd
      by_cases ht : t ∈ d.transforms
      · refine ⟨_, _, ?_, .refused _ (e := .duplicateTransform t.algorithm.uri) ⟨rfl, by simp⟩⟩
        simp only [perform, hd, DataObjectDescription.addTransform, List.contains_iff_mem, ht,
          if_true, afterRefusal]
      · refine ⟨_, _, ?_, .addTransform hmem ht⟩
        simp only [perform, hd, DataObjectDescription.addTransform, List.contains_iff_mem, ht,
          if_false]
  | declare id p =>
    cases hd : s.object? id with
    | none => exact ⟨_, _, by simp only [perform, hd], .unknown _⟩
    | some d =>
      obtain ⟨hmem, rfl⟩ := hs.object?_eq_some_iff.1 hd
      simp only [perform, hd]
      rcases hs.declareOn_cases hmem p with ⟨-, e, he, heq⟩ | ⟨⟨hadmits, haccepts⟩, heq⟩
      · exact ⟨_, _, heq, .refused _ he⟩
      · exact ⟨_, _, heq, .declare hmem hadmits haccepts⟩
  | attach p id =>
    by_cases hid : s.isAllocated id = true
    · simp only [perform, hid, if_true]
      rcases s.table.attach_cases p id with ⟨-, e, he, hattach⟩ | ⟨haccepts, hattach⟩
      · exact ⟨_, _, by rw [hattach]; rfl, .refused _ he⟩
      · exact ⟨_, _, by rw [hattach], .attach hid haccepts⟩
    · exact ⟨_, _, by simp only [perform, hid, if_false, Bool.false_eq_true], .unknown _⟩
  | register id i =>
    cases hd : s.descriptions.find? (fun d => d.id == id) with
    | none => exact ⟨_, _, by simp only [perform, hd], .unknown _⟩
    | some d =>
      cases hc : s.collections[i]? with
      | none => exact ⟨_, _, by simp only [perform, hd, hc], .unknown _⟩
      | some c =>
        obtain rfl : d.id = id := by simpa using List.find?_some hd
        simp only [perform, hd, hc]
        rcases s.registerIn_cases d i c with ⟨e, he, heq⟩ | ⟨hnew, heq⟩
        · exact ⟨_, _, heq, .refused _ he⟩
        · exact ⟨_, _, heq, .register (List.mem_of_find?_eq_some hd) hc hnew⟩
  | declareForAll i p =>
    cases hc : s.collections[i]? with
    | none => exact ⟨_, _, by simp only [perform, hc], .unknown _⟩
    | some c =>
      have hmem := List.mem_of_getElem? hc
      simp only [perform, hc]
      rcases (hs.collections c hmem).declareForAll_cases p with
        ⟨-, e, he, heq⟩ | ⟨⟨hall, hadmits⟩, heq⟩
      · exact ⟨_, _, by rw [heq]; rfl, .refused _ he⟩
      · exact ⟨_, _, by rw [heq], .declareForAll hc hall hadmits⟩
  | checkLayout l =>
    cases hl : l.checkFrom s.nextDataObject with
    | ok _ => exact ⟨_, _, by simp only [perform, hl, Outcome.ofExcept], .checkLayout hl⟩
    | error e =>
      refine ⟨_, _, ?_, .refused _ (PropertyLayout.isRefusal_of_checkFrom hl)⟩
      simp only [perform, hl, Outcome.ofExcept, afterRefusal]

/-! ## Consistency -/

theorem IsConsistent.afterRefusal (hs : s.IsConsistent) (a : Action) :
    (s.afterRefusal a).IsConsistent := by
  cases a with
  | register id _ => exact hs.drop id
  | checkLayout l =>
    exact hs.of_subperm (List.Subperm.refl _) (Nat.le_add_right _ _) hs.collections rfl
  | _ => exact hs

/-- Every action keeps the declarations consistent, accepted or refused. -/
theorem IsConsistent.perform (hs : s.IsConsistent) (a : Action) :
    (s.perform a).2.IsConsistent := by
  obtain ⟨o, s', heq, hchange⟩ := hs.change a
  rw [heq]
  cases hchange with
  | unknown => exact hs
  | refused => exact hs.afterRefusal a
  | describe uri => exact hs.allocate _ uri
  | describeAs referenceId uri => exact hs.allocate (fun _ => referenceId) uri
  | openCollection =>
    refine hs.of_subperm ?_ (Nat.le_refl _) ?_ rfl
    · simp [Declarations.objects, List.Subperm.refl]
    · refine List.forall_mem_append.2 ⟨hs.collections, ?_⟩
      exact List.forall_mem_singleton.2 SignedDataObjects.isConsistent_empty
  | setType hd referenceType => exact hs.replace hd rfl rfl { hs.objects _ hd with }
  | addTransform hd ht => exact hs.replace hd rfl rfl { hs.objects _ hd with }
  | declare hd hadmits haccepts => exact hs.declare hd hadmits haccepts
  | attach hid haccepts => exact hs.push haccepts
  | register hd hc hnew => exact hs.register hd hc hnew
  | declareForAll hc hall hadmits => exact hs.declareForAll hc hall hadmits
  | checkLayout hl =>
    exact hs.of_subperm (List.Subperm.refl _) (Nat.le_add_right _ _) hs.collections rfl

theorem run_cons (s : Declarations) (a : Action) (actions : List Action) :
    s.run (a :: actions) = (s.perform a).2.run actions := rfl

theorem run_append (s : Declarations) (actions later : List Action) :
    s.run (actions ++ later) = (s.run actions).run later := List.foldl_append

/-- **Every run keeps the declarations consistent.** -/
theorem IsConsistent.run (hs : s.IsConsistent) (actions : List Action) :
    (s.run actions).IsConsistent := by
  induction actions generalizing s with
  | nil => exact hs
  | cons a rest ih =>
    rw [run_cons]
    exact ih (hs.perform a)

/-! ## What is held -/

/-- The property is held by a data object, or by a collection for all its data objects. -/
def Holds (s : Declarations) (p : DataObjectProperty) : Prop :=
  (∃ d ∈ s.objects, d.Holds p) ∨ ∃ c ∈ s.collections, c.HoldsForAll p

variable {p : DataObjectProperty}

theorem Holds.of_replace {d : DataObjectDescription} (h : (s.replace d).Holds p) :
    s.Holds p ∨ d.Holds p := by
  rcases h with ⟨o, ho, hp⟩ | ⟨c', hc', hp⟩
  · rw [objects_replace] at ho
    rcases mem_replaceIn ho with rfl | ho
    · exact Or.inr hp
    · exact Or.inl (Or.inl ⟨o, ho, hp⟩)
  · obtain ⟨c, hc, rfl⟩ := List.mem_map.1 hc'
    exact Or.inl (Or.inr ⟨c, hc, hp⟩)

theorem Holds.of_allocate {referenceId : DataObjectId → String} {uri : String}
    (h : (s.allocate referenceId uri).Holds p) : s.Holds p := by
  rcases h with ⟨d, hd, hp⟩ | ⟨c, hc, hp⟩
  · rcases mem_objects_allocate hd with hd | rfl
    · exact Or.inl ⟨d, hd, hp⟩
    · simp [DataObjectDescription.Holds] at hp
  · exact Or.inr ⟨c, hc, hp⟩

/-- The data objects may move and one collection may change. -/
theorem Holds.of_set {s' : Declarations} {i : Nat} {c : SignedDataObjects}
    (h : s'.Holds p) (hobjects : s'.objects ⊆ s.objects)
    (hset : s'.collections = s.collections.set i c) : s.Holds p ∨ c.HoldsForAll p := by
  rcases h with ⟨d, hd, hp⟩ | ⟨c', hc', hp⟩
  · exact Or.inl (Or.inl ⟨d, hobjects hd, hp⟩)
  · rw [hset] at hc'
    rcases List.mem_or_eq_of_mem_set hc' with hc' | rfl
    · exact Or.inl (Or.inr ⟨c', hc', hp⟩)
    · exact Or.inr hp

theorem Holds.of_afterRefusal {a : Action} (h : (s.afterRefusal a).Holds p) : s.Holds p := by
  cases a with
  | register id _ =>
    rcases h with ⟨d, hd, hp⟩ | ⟨c, hc, hp⟩
    · exact Or.inl ⟨d, (List.filter_sublist.append_right _).subset hd, hp⟩
    · exact Or.inr ⟨c, hc, hp⟩
  | _ => exact h

/-- What is held after an action was held before or has been declared by it. -/
theorem IsConsistent.holds_of_perform (hs : s.IsConsistent) {a : Action}
    (h : (s.perform a).2.Holds p) : s.Holds p ∨ a.declared? = some p := by
  obtain ⟨o, s', heq, hchange⟩ := hs.change a
  rw [heq] at h
  cases hchange with
  | unknown | attach | checkLayout => exact Or.inl h
  | refused => exact Or.inl h.of_afterRefusal
  | describe | describeAs => exact Or.inl (Holds.of_allocate h)
  | openCollection =>
    rcases h with ⟨d, hd, hp⟩ | ⟨c, hc, hp⟩
    · exact Or.inl (Or.inl ⟨d, by simpa [Declarations.objects] using hd, hp⟩)
    · rcases List.mem_append.1 hc with hc | hc
      · exact Or.inl (Or.inr ⟨c, hc, hp⟩)
      · obtain rfl := List.mem_singleton.1 hc
        simp [SignedDataObjects.HoldsForAll] at hp
  | setType hd | addTransform hd =>
    rcases Holds.of_replace h with h | hp
    · exact Or.inl h
    · exact Or.inl (Or.inl ⟨_, hd, hp⟩)
  | declare hd =>
    replace h : (s.replace _).Holds p := h
    rcases Holds.of_replace h with h | hp
    · exact Or.inl h
    · rcases DataObjectDescription.holds_withProperty.1 hp with hp | rfl
      · exact Or.inl (Or.inl ⟨_, hd, hp⟩)
      · exact Or.inr rfl
  | register hd hc =>
    rcases Holds.of_set h (hs.objects_register_subperm hd hc).subset rfl with h | hp
    · exact Or.inl h
    · exact Or.inl (Or.inr ⟨_, List.mem_of_getElem? hc, hp⟩)
  | declareForAll hc =>
    rcases Holds.of_set h (objects_set_withProperty hc).subset rfl with h | hp
    · exact Or.inl h
    · rcases SignedDataObjects.holdsForAll_withProperty.1 hp with hp | rfl
      · exact Or.inl (Or.inr ⟨_, List.mem_of_getElem? hc, hp⟩)
      · exact Or.inr rfl

/-- **Only declared properties are held**, after any run. -/
theorem IsConsistent.holds_of_run (hs : s.IsConsistent) {actions : List Action}
    (h : (s.run actions).Holds p) : s.Holds p ∨ ∃ a ∈ actions, a.declared? = some p := by
  induction actions generalizing s with
  | nil => exact Or.inl h
  | cons a rest ih =>
    rw [run_cons] at h
    rcases ih (hs.perform a) h with h | ⟨b, hb, hp⟩
    · rcases hs.holds_of_perform h with h | hp
      · exact Or.inl h
      · exact Or.inr ⟨a, List.mem_cons_self, hp⟩
    · exact Or.inr ⟨b, List.mem_cons_of_mem _ hb, hp⟩

end Declarations

end AdvancedSignature
