import AdvancedSignature.Proofs.Declaration.Change

/-!
# Refused and accepted actions

A refused action leaves everything that survives it as it was, down to the counts of the bags, and
an accepted declaration on a data object changes two things: the end of one bag and the end of one
list of targets.  Both hold in every state that a run can reach.
-/

namespace AdvancedSignature

namespace Declarations

variable {s : Declarations}

/-- A refused action asks for an illegal structure and leaves the rest as it was. -/
theorem IsConsistent.of_refused (hs : s.IsConsistent) {a : Action} {e : Error}
    (h : (s.perform a).1 = .refused e) :
    e.IsRefusal ∧ (s.perform a).2 = s.afterRefusal a := by
  obtain ⟨o, s', heq, hchange⟩ := hs.change a
  rw [heq] at h ⊢
  cases hchange with
  | refused _ he =>
    cases h
    exact ⟨he, rfl⟩
  | _ => cases h

/-- An accepted declaration is about a data object there is, and does what it says. -/
theorem IsConsistent.of_declared (hs : s.IsConsistent) {id : DataObjectId}
    {p : DataObjectProperty} (h : (s.perform (.declare id p)).1 = .accepted) :
    ∃ d ∈ s.objects, d.id = id ∧
      (s.perform (.declare id p)).2 =
        { s.replace (d.withProperty p) with table := s.table.push p id } := by
  obtain ⟨o, s', heq, hchange⟩ := hs.change (.declare id p)
  rw [heq] at h ⊢
  cases hchange with
  | unknown | refused => cases h
  | declare hd => exact ⟨_, hd, rfl, rfl⟩

/-- **A refused action changes nothing, and an accepted declaration changes only what it names.**
The first part is about every action after every run: its error says that the caller asked for an
illegal structure and is never about something absent, and the state is as before but for a
description that was handed over.  The second is about a property declared on a data object: it
ends the bag of that data object to which it belongs, and the data object ends its targets. -/
theorem run_perform_changes (actions : List Action) :
    let s := ({} : Declarations).run actions
    (∀ a e, (s.perform a).1 = .refused e →
      e.isStructural = true ∧ (∀ k, e ≠ .notPresent k) ∧ (s.perform a).2 = s.afterRefusal a) ∧
    ∀ id p, (s.perform (.declare id p)).1 = .accepted →
      ∃ d ∈ s.objects, d.id = id ∧ (∀ o ∈ s.objects, o.id = id → o = d) ∧
        (s.perform (.declare id p)).2 =
          { s.replace (d.withProperty p) with table := s.table.push p id } := by
  intro s
  have hs : s.IsConsistent := (isConsistent_start 1).run actions
  constructor
  · intro a e h
    obtain ⟨⟨hstructural, hpresent⟩, hafter⟩ := hs.of_refused h
    exact ⟨hstructural, hpresent, hafter⟩
  · intro id p h
    obtain ⟨d, hd, rfl, hafter⟩ := hs.of_declared h
    exact ⟨d, hd, rfl, fun o ho hid => List.inj_on_of_nodup_map hs.ids ho hd hid, hafter⟩

/-- A data object with a format is refused another one, and nothing changes.  The other data object
takes a commitment at the end of its bag and becomes the last target of it. -/
theorem run_perform_changes_of_two_objects :
    let format : DataObjectProperty := ⟨⟨0⟩, .format { mimeType := some "text/plain" }⟩
    let secondFormat : DataObjectProperty := ⟨⟨1⟩, .format { mimeType := some "text/html" }⟩
    let commitment : DataObjectProperty := ⟨⟨2⟩, .commitment { uri := "approval" }⟩
    let s := ({} : Declarations).run
      [.describe "a.txt", .describe "b.txt", .declare ⟨1⟩ format, .declare ⟨1⟩ commitment]
    let refused := s.perform (.declare ⟨1⟩ secondFormat)
    let accepted := s.perform (.declare ⟨2⟩ commitment)
    refused.1 = .refused (.duplicatePropertyKind .dataObjectFormat) ∧ refused.2 = s ∧
      accepted.1 = .accepted ∧ ∃ d ∈ s.objects, d.id = ⟨2⟩ ∧
        accepted.2 =
          { s.replace (d.withProperty commitment) with table := s.table.push commitment ⟨2⟩ } := by
  intro format secondFormat commitment s refused accepted
  have hrefused : refused.1 = .refused (.duplicatePropertyKind .dataObjectFormat) := by
    decide +kernel
  have haccepted : accepted.1 = .accepted := by decide +kernel
  obtain ⟨hnothing, hends⟩ := run_perform_changes
    [.describe "a.txt", .describe "b.txt", .declare ⟨1⟩ format, .declare ⟨1⟩ commitment]
  obtain ⟨d, hd, hid, -, hafter⟩ := hends _ _ haccepted
  exact ⟨hrefused, (hnothing _ _ hrefused).2.2, haccepted, d, hd, hid, hafter⟩

end Declarations

end AdvancedSignature
