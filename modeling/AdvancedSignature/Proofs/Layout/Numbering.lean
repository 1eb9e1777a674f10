import AdvancedSignature.Proofs.Layout.Replay
import Mathlib.Algebra.Ring.Nat

/-!
# Numbers from a shared counter

The structure check draws a number for each reference from a counter of 64 bits that everything else
draws from as well, so that the counter may stand anywhere when the check begins, may run over in
the middle of it, and may have gone on between two references.  `DataObjectId.drawn` is what the
references get then.  As long as no number is given out twice the check finds what it finds with
the numbers from one on (`PropertyLayout.checkUnder_drawn`).
-/

namespace AdvancedSignature

namespace DataObjectId

/-- The data objects that get their numbers from the counter, when before each of them others take
as many numbers as the list says. -/
def drawn (counter : Nat) : List Nat → List DataObjectId
  | [] => []
  | taken :: rest => ⟨(counter + taken) % 2 ^ 64⟩ :: drawn (counter + taken + 1) rest

@[simp] theorem length_drawn (counter : Nat) (taken : List Nat) :
    (drawn counter taken).length = taken.length := by
  induction taken generalizing counter with
  | nil => rfl
  | cons n rest ih => rw [drawn, List.length_cons, ih, List.length_cons]

/-- A number that is drawn is one of those that the counter goes through. -/
theorem exists_of_mem_drawn {counter : Nat} {taken : List Nat} {id : DataObjectId}
    (h : id ∈ drawn counter taken) :
    ∃ n, counter ≤ n ∧ n < counter + (taken.sum + taken.length) ∧ id.sequence = n % 2 ^ 64 := by
  induction taken generalizing counter with
  | nil => simp [drawn] at h
  | cons n rest ih =>
    rw [List.sum_cons, List.length_cons]
    rcases List.mem_cons.1 h with rfl | h
    · exact ⟨counter + n, by omega, by omega, rfl⟩
    · obtain ⟨m, hle, hlt, hid⟩ := ih h
      exact ⟨m, by omega, by omega, hid⟩

/-- No number is drawn twice before the counter has gone round. -/
theorem nodup_drawn (counter : Nat) {taken : List Nat}
    (h : taken.sum + taken.length ≤ 2 ^ 64) : (drawn counter taken).Nodup := by
  induction taken generalizing counter with
  | nil => exact List.nodup_nil
  | cons n rest ih =>
    rw [List.sum_cons, List.length_cons] at h
    refine List.nodup_cons.2 ⟨fun hmem => ?_, ih (counter + n + 1) (by omega)⟩
    obtain ⟨m, hle, hlt, hid⟩ := exists_of_mem_drawn hmem
    -- less than one turn lies between the two
    replace hid : (counter + n) % 2 ^ 64 = m % 2 ^ 64 := hid
    omega

end DataObjectId

/-- **The check does not depend on the counter**, nor on who else draws from it meanwhile. -/
theorem PropertyLayout.checkUnder_drawn (l : PropertyLayout) (counter : Nat) {taken : List Nat}
    (hlength : taken.length = l.references.length) (hcount : taken.sum + taken.length ≤ 2 ^ 64) :
    l.checkUnder (.ofList (l.references.zip (DataObjectId.drawn counter taken))) = l.check := by
  have hsame : (DataObjectId.drawn counter taken).length = l.references.length := by
    rw [DataObjectId.length_drawn, hlength]
  have hnumbers := ReferenceNumbering.numbers_ofList
    (l := l.references.zip (DataObjectId.drawn counter taken)) (by
      rw [List.map_snd_zip (Nat.le_of_eq hsame)]
      exact DataObjectId.nodup_drawn counter hcount)
  rw [List.map_fst_zip (Nat.le_of_eq hsame.symm)] at hnumbers
  rw [check, checkFrom_eq, checkUnder_eq hnumbers]

end AdvancedSignature
