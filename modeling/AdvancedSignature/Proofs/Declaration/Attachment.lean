import AdvancedSignature.Proofs.Declaration.Change

/-!
# Bags and targets

A property on a data object is recorded twice: in a bag of the data object, and by the data object
among the targets of the property.  What an action does to each record is said once,
`IsConsistent.mem_targets_perform` for the targets and `IsConsistent.holds_perform` for the bags.

* `Declarations.IsOrderly` lists what is true of bags, target sets and collections at all times.
* `Declarations.run_isOrderly`: it is true after every run, and as long as no target is recorded
  by itself the two records agree.
-/

namespace AdvancedSignature

/-- The action records a target of a property and nothing else. -/
def Action.IsAttach : Action → Prop
  | .attach _ _ => True
  | _ => False

/-- The action names the data object as a target of the property. -/
def Action.Targets (a : Action) (p : DataObjectProperty) (id : DataObjectId) : Prop :=
  a = .declare id p ∨ a = .attach p id

namespace Declarations

variable {s : Declarations} {a : Action} {p : DataObjectProperty} {id : DataObjectId}

/-! ## Targets after an action -/

@[simp] theorem table_afterRefusal (s : Declarations) (a : Action) :
    (s.afterRefusal a).table = s.table := by
  cases a <;> rfl

/-- The targets of a property after an action are those before, and the one that the action names
if it is accepted. -/
theorem IsConsistent.mem_targets_perform (hs : s.IsConsistent) :
    id ∈ (s.perform a).2.table.ofProperty p ↔
      id ∈ s.table.ofProperty p ∨ (s.perform a).1 = .accepted ∧ a.Targets p id := by
  obtain ⟨o, s', heq, hchange⟩ := hs.change a
  have hpush (q : DataObjectProperty) (target : DataObjectId) :
      id ∈ (s.table.push q target).ofProperty p ↔
        id ∈ s.table.ofProperty p ∨ q = p ∧ target = id := by
    rw [TargetTable.ofProperty_push]
    split_ifs with hq
    · subst hq
      simp [eq_comm]
    · simp [Ne.symm hq]
  rw [heq]
  cases hchange with
  | declare => simpa [Action.Targets, and_comm] using hpush _ _
  | attach => simpa [Action.Targets] using hpush _ _
  | refused => simp
  -- the other actions leave the table as it is
  | _ => exact (or_iff_left (by simp [Action.Targets])).symm

/-! ## Bags after an action -/

/-- Where a description is replaced, there is the new one or one with another identity. -/
theorem mem_objects_replace {d o : DataObjectDescription} (ho : o ∈ (s.replace d).objects) :
    o = d ∨ o ∈ s.objects ∧ o.id ≠ d.id := by
  rw [objects_replace] at ho
  obtain ⟨o', ho', rfl⟩ := List.mem_map.1 ho
  split_ifs with hid
  · exact Or.inl rfl
  · exact Or.inr ⟨ho', hid⟩

/-- What a data object holds after an action.  Either it was there before, and to what it held then
the action has added the property that it declares on it; or it is new and holds nothing, and the
action does not name it. -/
theorem IsConsistent.holds_perform (hs : s.IsConsistent) {o : DataObjectDescription}
    (ho : o ∈ (s.perform a).2.objects) :
    (∃ d ∈ s.objects, d.id = o.id ∧
      ∀ p, o.Holds p ↔ d.Holds p ∨ (s.perform a).1 = .accepted ∧ a = .declare o.id p) ∨
    (o.id.sequence = s.nextDataObject ∧ ∀ p, ¬ o.Holds p ∧ ¬ a.Targets p o.id) := by
  obtain ⟨outcome, s', heq, hchange⟩ := hs.change a
  rw [heq] at ho ⊢
  replace ho : o ∈ s'.objects := ho
  -- a data object on which the action declares nothing
  have hkept {d : DataObjectDescription} (hd : d ∈ s.objects) (hid : d.id = o.id)
      (hholds : ∀ p, o.Holds p ↔ d.Holds p)
      (hother : outcome = .accepted → ∀ p, a ≠ .declare o.id p) :
      ∃ d ∈ s.objects, d.id = o.id ∧
        ∀ p, o.Holds p ↔ d.Holds p ∨ outcome = .accepted ∧ a = .declare o.id p :=
    ⟨d, hd, hid, fun p => (hholds p).trans (or_iff_left fun h => hother h.1 p h.2).symm⟩
  have hsame (ho : o ∈ s.objects) := hkept ho rfl fun _ => Iff.rfl
  cases hchange with
  | unknown => exact Or.inl (hsame ho (by simp))
  | refused =>
    refine Or.inl (hsame ?_ (by simp))
    cases a with
    | register => exact (List.filter_sublist.append_right _).subset ho
    | _ => exact ho
  | describe | describeAs =>
    rcases mem_objects_allocate ho with ho | rfl
    · exact Or.inl (hsame ho (by simp))
    · exact Or.inr ⟨rfl, fun p => by simp [DataObjectDescription.Holds, Action.Targets]⟩
  | openCollection => exact Or.inl (hsame (by simpa [Declarations.objects] using ho) (by simp))
  | setType hd | addTransform hd =>
    rcases mem_objects_replace ho with rfl | ⟨ho, -⟩
    · exact Or.inl (hkept hd rfl (fun _ => Iff.rfl) (by simp))
    · exact Or.inl (hsame ho (by simp))
  | declare hd =>
    rename_i d p hadmits haccepts
    rcases mem_objects_replace ho with rfl | ⟨ho, hid⟩
    · refine Or.inl ⟨d, hd, (d.id_withProperty p).symm, fun q => ?_⟩
      rw [DataObjectDescription.holds_withProperty, DataObjectDescription.id_withProperty]
      simp [eq_comm]
    · rw [DataObjectDescription.id_withProperty] at hid
      exact Or.inl (hsame ho (by simp [Ne.symm hid]))
  | attach | checkLayout => exact Or.inl (hsame ho (by simp))
  | register hd hc =>
    exact Or.inl (hsame ((hs.objects_register_subperm hd hc).subset ho) (by simp))
  | declareForAll hc =>
    exact Or.inl (hsame ((objects_set_withProperty hc).subset ho) (by simp))

/-! ## The two records over a run -/

/-- Every target of a property is a data object that has been described. -/
def TargetsAllocated (s : Declarations) : Prop :=
  ∀ p, ∀ id ∈ s.table.ofProperty p, id.sequence < s.nextDataObject

/-- A data object that is a target of a property holds it. -/
def TargetsHold (s : Declarations) : Prop :=
  ∀ d ∈ s.objects, ∀ p, d.id ∈ s.table.ofProperty p → d.Holds p

/-- Numbers are only ever given out. -/
theorem IsConsistent.nextDataObject_le (hs : s.IsConsistent) (a : Action) :
    s.nextDataObject ≤ (s.perform a).2.nextDataObject := by
  obtain ⟨o, s', heq, hchange⟩ := hs.change a
  rw [heq]
  cases hchange with
  | refused =>
    cases a with
    | checkLayout => exact Nat.le_add_right _ _
    | _ => exact Nat.le_refl _
  | describe | describeAs => exact Nat.le_succ _
  | checkLayout => exact Nat.le_add_right _ _
  | _ => exact Nat.le_refl _

/-- An action is accepted only if the data object that it names has been described. -/
theorem IsConsistent.allocated_of_targets (hs : s.IsConsistent)
    (haccepted : (s.perform a).1 = .accepted) (h : a.Targets p id) :
    id.sequence < s.nextDataObject := by
  obtain ⟨o, s', heq, hchange⟩ := hs.change a
  rw [heq] at haccepted
  rcases h with rfl | rfl
  · cases hchange with
    | unknown | refused => cases haccepted
    | declare hd => exact hs.allocated _ hd
  · cases hchange with
    | unknown | refused => cases haccepted
    | attach hallocated => simpa using (Bool.and_eq_true_iff.1 hallocated).2

theorem IsConsistent.targetsAllocated_perform (hs : s.IsConsistent) (h : s.TargetsAllocated)
    (a : Action) : (s.perform a).2.TargetsAllocated := by
  intro p id hid
  refine Nat.lt_of_lt_of_le ?_ (hs.nextDataObject_le a)
  rcases hs.mem_targets_perform.1 hid with hid | ⟨haccepted, htargets⟩
  · exact h p id hid
  · exact hs.allocated_of_targets haccepted htargets

/-- An action that does not record a target by itself records it in both places. -/
theorem IsConsistent.targetsHold_perform (hs : s.IsConsistent) (hallocated : s.TargetsAllocated)
    (h : s.TargetsHold) (ha : ¬ a.IsAttach) : (s.perform a).2.TargetsHold := by
  intro o ho p hp
  rcases hs.holds_perform ho with ⟨d, hd, hid, hholds⟩ | ⟨hnew, hnone⟩
  · rw [hholds]
    rcases hs.mem_targets_perform.1 hp with hp | ⟨haccepted, rfl | rfl⟩
    · exact Or.inl (h d hd p (hid ▸ hp))
    · exact Or.inr ⟨haccepted, rfl⟩
    · exact absurd trivial ha
  · rcases hs.mem_targets_perform.1 hp with hp | ⟨-, htargets⟩
    · -- nothing targets a number that has not been given out
      have hlt := hallocated p _ hp
      omega
    · exact absurd htargets (hnone p).2

theorem IsConsistent.targetsHold_run (hs : s.IsConsistent) (hallocated : s.TargetsAllocated)
    (h : s.TargetsHold) {actions : List Action} (hactions : ∀ a ∈ actions, ¬ a.IsAttach) :
    (s.run actions).TargetsHold := by
  induction actions generalizing s with
  | nil => exact h
  | cons a rest ih =>
    obtain ⟨ha, hrest⟩ := List.forall_mem_cons.1 hactions
    rw [run_cons]
    exact ih (hs.perform a) (hs.targetsAllocated_perform hallocated a)
      (hs.targetsHold_perform hallocated h ha) hrest

/-! ## Order -/

/-- Bags, target sets and collections are in order. -/
structure IsOrderly (s : Declarations) : Prop where
  /-- A data object is among the targets of every property in its bags. -/
  targeted : ∀ d ∈ s.objects, ∀ p, p ∈ d.signed.entries ∨ p ∈ d.unsigned.entries →
    d.id ∈ s.table.ofProperty p
  /-- The targets of a property are distinct. -/
  distinct : ∀ p, (s.table.ofProperty p).Nodup
  /-- A property for one data object has at most one target. -/
  atMostOne : ∀ p, p.multiplicity = .one → (s.table.ofProperty p).length ≤ 1
  /-- A property for all data objects has no target. -/
  none : ∀ p, p.multiplicity = .all → s.table.ofProperty p = []
  /-- A data object has at most one format. -/
  format : ∀ d ∈ s.objects,
    ((d.signed.entries ++ d.unsigned.entries).filter (·.kind == .dataObjectFormat)).length ≤ 1
  /-- A property for all data objects is in no bag of one of them. -/
  individual : ∀ d ∈ s.objects, ∀ p ∈ d.signed.entries ++ d.unsigned.entries,
    p.multiplicity ≠ .all
  /-- Only properties for all data objects are in the bags for all. -/
  forAll : ∀ c ∈ s.collections, ∀ p ∈ c.forAllSigned.entries ++ c.forAllUnsigned.entries,
    p.multiplicity = .all
  /-- The data objects of a collection have reference identifiers of their own. -/
  referenceIds : ∀ c ∈ s.collections, (c.objects.map DataObjectDescription.referenceId).Nodup
  /-- The data objects of a collection have identities of their own. -/
  ids : ∀ c ∈ s.collections, (c.objects.map DataObjectDescription.id).Nodup

theorem IsConsistent.isOrderly (hs : s.IsConsistent) : s.IsOrderly where
  targeted d hd := (hs.objects d hd).target
  distinct p := (hs.table p).nodup
  atMostOne p := (hs.table p).length_le
  none p := (hs.table p).eq_nil
  format d hd := by
    have hunsigned : d.unsigned.entries.filter (·.kind == .dataObjectFormat) = [] := by
      refine List.filter_eq_nil_iff.2 fun p hp => ?_
      simp [(hs.objects d hd).kind_unsigned p hp]
    rw [List.filter_append, hunsigned, List.append_nil]
    exact (hs.objects d hd).signed.length_ofKind_le rfl
  individual d hd p hp :=
    (hs.objects d hd).multiplicity_ne_all hs.table (List.mem_append.1 hp)
  forAll c hc p hp := (hs.collections c hc).multiplicity_eq_all p (List.mem_append.1 hp)
  referenceIds c hc := (hs.collections c hc).referenceIds
  ids c hc := hs.ids_collection hc

/-- **Bags and target sets stay in order, and in step.**  The first holds after every run, whatever
was refused in it.  The second holds as long as targets are recorded by declarations only: a data
object is then among the targets of exactly the properties that its bags hold. -/
theorem run_isOrderly (actions : List Action) :
    let s := ({} : Declarations).run actions
    s.IsOrderly ∧
      ((∀ a ∈ actions, ¬ a.IsAttach) →
        ∀ d ∈ s.objects, ∀ p,
          d.id ∈ s.table.ofProperty p ↔ p ∈ d.signed.entries ∨ p ∈ d.unsigned.entries) := by
  intro s
  have hstart : ({} : Declarations).IsConsistent := isConsistent_start 1
  have hs : s.IsConsistent := hstart.run actions
  refine ⟨hs.isOrderly, fun hactions d hd p => ⟨fun hp => ?_, (hs.objects d hd).target p⟩⟩
  have hallocated : ({} : Declarations).TargetsAllocated := by simp [TargetsAllocated]
  have hhold : ({} : Declarations).TargetsHold := by simp [TargetsHold]
  exact hstart.targetsHold_run hallocated hhold hactions d hd p hp

/-- Two data objects that share a commitment, one of which was refused a format that the other
has. -/
theorem isOrderly_of_two_objects :
    let format : DataObjectProperty := ⟨⟨0⟩, .format { mimeType := some "text/plain" }⟩
    let commitment : DataObjectProperty := ⟨⟨1⟩, .commitment { uri := "approval" }⟩
    let actions : List Action :=
      [.describe "a.txt", .describe "b.txt", .declare ⟨1⟩ format, .declare ⟨2⟩ format,
        .declare ⟨2⟩ commitment, .declare ⟨1⟩ commitment]
    let s := ({} : Declarations).run actions
    (∀ a ∈ actions, ¬ a.IsAttach) ∧
      (∀ d ∈ s.objects, ∀ p,
        d.id ∈ s.table.ofProperty p ↔ p ∈ d.signed.entries ∨ p ∈ d.unsigned.entries) ∧
      s.objects.map (·.signed.entries) = [[format, commitment], [commitment]] ∧
      s.table.ofProperty commitment = [⟨2⟩, ⟨1⟩] := by
  intro format commitment actions s
  have hactions : ∀ a ∈ actions, ¬ a.IsAttach := by simp [actions, Action.IsAttach]
  refine ⟨hactions, ?_, ?_, ?_⟩
  · -- the run itself is not to be computed here
    clear_value actions
    exact (run_isOrderly actions).2 hactions
  · decide +kernel
  · decide +kernel

end Declarations

end AdvancedSignature
