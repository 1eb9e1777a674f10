import AdvancedSignature.Proofs.Outcome

/-!
# The first fault in a list

`firstFault?` looks through a list in which the fault of a member depends on the members before it.
A fold that takes in one member after another fails with what is found so (`foldlM_eq_okUnless`).
-/

namespace AdvancedSignature

variable {α β ε : Type} {fault? : List α → α → Option ε} {before l : List α} {e : ε}

/-- The first fault in a list, where that of a member depends on those before it. -/
def firstFault? (fault? : List α → α → Option ε) (before : List α) : List α → Option ε
  | [] => none
  | a :: rest => (fault? before a).or (firstFault? fault? (before ++ [a]) rest)

theorem firstFault?_append (more : List α) :
    firstFault? fault? before (l ++ more) =
      (firstFault? fault? before l).or (firstFault? fault? (before ++ l) more) := by
  induction l generalizing before with
  | nil => rw [List.nil_append, List.append_nil, firstFault?, Option.none_or]
  | cons a rest ih =>
    rw [List.cons_append, firstFault?, firstFault?, ih, Option.or_assoc, List.append_assoc,
      List.singleton_append]

/-- A fault is found at the first member that has one. -/
theorem firstFault?_eq_some_iff :
    firstFault? fault? before l = some e ↔
      ∃ passed a rest, l = passed ++ a :: rest ∧ firstFault? fault? before passed = none ∧
        fault? (before ++ passed) a = some e := by
  induction l generalizing before with
  | nil => simp [firstFault?]
  | cons a rest ih =>
    rw [firstFault?, Option.or_eq_some_iff, ih]
    constructor
    · rintro (ha | ⟨hnone, passed, b, later, rfl, hpassed, hb⟩)
      · exact ⟨[], a, rest, rfl, rfl, by rwa [List.append_nil]⟩
      · refine ⟨a :: passed, b, later, rfl, ?_, ?_⟩
        · rw [firstFault?, hnone, hpassed, Option.none_or]
        · rwa [List.append_cons]
    · rintro ⟨_ | ⟨c, passed⟩, b, later, hsplit, hpassed, hb⟩
      · obtain ⟨rfl, rfl⟩ := List.cons.inj hsplit
        exact Or.inl (by rwa [List.append_nil] at hb)
      · obtain ⟨rfl, rfl⟩ := List.cons.inj hsplit
        rw [firstFault?, Option.or_eq_none_iff] at hpassed
        refine Or.inr ⟨hpassed.1, passed, b, later, rfl, hpassed.2, ?_⟩
        rwa [← List.append_cons]

theorem firstFault?_eq_none_iff :
    firstFault? fault? before l = none ↔
      ∀ passed a rest, l = passed ++ a :: rest → fault? (before ++ passed) a = none := by
  constructor
  · rintro h passed a rest rfl
    rw [firstFault?_append, Option.or_eq_none_iff, firstFault?, Option.or_eq_none_iff] at h
    exact h.2.1
  · intro h
    by_contra hne
    obtain ⟨e, he⟩ := Option.ne_none_iff_exists'.1 hne
    obtain ⟨passed, a, rest, hsplit, -, ha⟩ := firstFault?_eq_some_iff.1 he
    rw [h passed a rest hsplit] at ha
    cases ha

/-- What is found in images is found with the faults that the images have. -/
theorem firstFault?_map {fault? : List β → β → Option ε} (f : α → β) :
    firstFault? fault? (before.map f) (l.map f) =
      firstFault? (fun before a => fault? (before.map f) (f a)) before l := by
  induction l generalizing before with
  | nil => rfl
  | cons a rest ih =>
    have hrest := @ih (before ++ [a])
    rw [List.map_append] at hrest
    rw [List.map_cons, firstFault?, firstFault?]
    exact congrArg _ hrest

/-- Taking in members one after another fails with the first fault, and else takes in all. -/
theorem foldlM_eq_okUnless {step : List α → α → Except ε (List α)}
    (hstep : ∀ before a, step before a = okUnless (fault? before a) (before ++ [a])) :
    l.foldlM step before = okUnless (firstFault? fault? before l) (before ++ l) := by
  induction l generalizing before with
  | nil => rw [List.append_nil, firstFault?, okUnless_none]; rfl
  | cons a rest ih =>
    rw [List.foldlM_cons, hstep, firstFault?, List.append_cons before a rest]
    exact okUnless_bind _ _ _ _ fun _ => ih

end AdvancedSignature
