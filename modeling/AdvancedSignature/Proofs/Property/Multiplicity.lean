import AdvancedSignature.Proofs.History
import AdvancedSignature.Proofs.Property.TargetSet
import Mathlib.Data.List.Induction

/-!
# What a multiplicity allows

A data-object property is asked to take one target after the other and refuses some of them.  What
it answers depends on its multiplicity and on what it was asked before.

* `Multiplicity.taken` lists the targets that are taken, `Multiplicity.refusal?` says why one is
  refused, and `Multiplicity.stateAfter` where the property stands.  They speak of the targets that
  were asked for, whether these were taken or not.
* `TargetSet.attach_taken` says what one call does, and `TargetSet.reached_attach` what any number
  of calls leaves behind.
* `TargetSet.history_attach`: the calls that are accepted are those that the multiplicity allows.
-/

namespace AdvancedSignature

namespace Multiplicity

/-- The targets that are taken of those asked for: none, the first one, or each where it occurs
first. -/
def taken : Multiplicity → List DataObjectId → List DataObjectId
  | .all, _ => []
  | .one, asked => asked.take 1
  | .many, asked => asked.eraseDups

/-- Why a target is refused after others were asked for. -/
def refusal? (k : PropertyKind) :
    Multiplicity → List DataObjectId → DataObjectId → Option Error
  | .all, _, _ => some (.appliesToAllDataObjects k)
  | .one, [], _ => none
  | .one, first :: _, target =>
      if target = first then some (.alreadyAttachedToTarget k)
      else some (.multiplicityExceeded k .one)
  | .many, asked, target =>
      if target ∈ asked then some (.alreadyAttachedToTarget k) else none

/-- Where a property stands after targets were asked for. -/
def stateAfter : Multiplicity → List DataObjectId → AttachState
  | .all, _ => .unattached
  | .one, [] => .unattached
  | .one, _ :: _ => .fullyAttached
  | .many, [] => .unattached
  | .many, _ :: _ => .partiallyAttached

variable {m : Multiplicity} {k : PropertyKind} {asked : List DataObjectId} {target : DataObjectId}

/-- A target that is not refused is taken, behind the others. -/
theorem taken_append_singleton (m : Multiplicity) (k : PropertyKind) (asked : List DataObjectId)
    (target : DataObjectId) :
    m.taken (asked ++ [target]) =
      if m.refusal? k asked target = none then m.taken asked ++ [target] else m.taken asked := by
  cases m with
  | all => rfl
  | one =>
    cases asked with
    | nil => rfl
    | cons first rest =>
      have hrefused : refusal? k .one (first :: rest) target ≠ none := by
        rw [refusal?]
        split_ifs <;> nofun
      rw [if_neg hrefused]
      rfl
  | many =>
    by_cases hmem : target ∈ asked <;>
      simp [taken, refusal?, List.eraseDups_append, List.eraseDups_cons, List.removeAll, hmem]

theorem eq_one_of_stateAfter (h : m.stateAfter asked = .fullyAttached) :
    m = .one ∧ asked ≠ [] := by
  cases m <;> cases asked <;> cases h
  exact ⟨rfl, List.cons_ne_nil _ _⟩

/-- What has been attached to something stays where it is. -/
theorem stateAfter_append (m : Multiplicity) (asked more : List DataObjectId) :
    m.stateAfter (asked ++ more) = m.stateAfter asked ∨
      m.stateAfter asked = .unattached ∧
        (m = .one ∧ m.stateAfter (asked ++ more) = .fullyAttached ∨
          m = .many ∧ m.stateAfter (asked ++ more) = .partiallyAttached) := by
  cases m with
  | all => exact Or.inl rfl
  | one | many =>
    cases asked with
    | cons first rest => exact Or.inl rfl
    | nil =>
      cases more with
      | nil => exact Or.inl rfl
      | cons first rest => simp [stateAfter]

end Multiplicity

namespace TargetSet

/-- What the next target comes to when others have been asked for. -/
theorem attach_taken (k : PropertyKind) (m : Multiplicity) (asked : List DataObjectId)
    (target : DataObjectId) :
    attach ⟨k, m, m.taken asked⟩ target =
      okUnless (m.refusal? k asked target) ⟨k, m, m.taken asked ++ [target]⟩ := by
  cases m with
  | all => rfl
  | one =>
    cases asked with
    | nil => rfl
    | cons first rest =>
      by_cases hfirst : target = first <;>
        simp [attach, isAttachedTo, Multiplicity.taken, Multiplicity.refusal?, Multiplicity.cap,
          hfirst]
  | many =>
    by_cases hmem : target ∈ asked <;>
      simp [attach, isAttachedTo, Multiplicity.taken, Multiplicity.refusal?, Multiplicity.cap, hmem]

/-- The targets that calls leave behind are those that are taken of the ones asked for. -/
theorem reached_attach (k : PropertyKind) (m : Multiplicity) (calls : List DataObjectId) :
    reached attach ⟨k, m, []⟩ calls = ⟨k, m, m.taken calls⟩ := by
  induction calls using List.reverseRecOn with
  | nil => cases m <;> rfl
  | append_singleton calls target ih =>
    rw [reached_append_singleton, ih, attach_taken, m.taken_append_singleton k]
    cases m.refusal? k calls target <;> rfl

theorem state_taken (k : PropertyKind) (m : Multiplicity) (asked : List DataObjectId) :
    state ⟨k, m, m.taken asked⟩ = m.stateAfter asked := by
  cases m with
  | all => rfl
  | one => cases asked <;> rfl
  | many => cases asked <;> simp [state, Multiplicity.taken, Multiplicity.stateAfter,
      Multiplicity.cap, List.eraseDups_cons]

/-- **A property takes exactly the targets that its multiplicity allows.**  A call is answered by
what was asked for before it: an accepted target comes behind those that are there, and a refused
one changes nothing.  The state leaves the beginning once, for the only other state that the
multiplicity has; a property that is full refuses whatever it is asked for later. -/
theorem history_attach (k : PropertyKind) (m : Multiplicity) (calls : List DataObjectId) :
    let after (n : Nat) : TargetSet := reached attach ⟨k, m, []⟩ (calls.take n)
    (∀ i target, calls[i]? = some target →
      (history attach ⟨k, m, []⟩ calls)[i]? =
          some (okUnless (m.refusal? k (calls.take i) target) (), after (i + 1)) ∧
        after (i + 1) =
          if m.refusal? k (calls.take i) target = none then
            ⟨k, m, (after i).targets ++ [target]⟩
          else after i) ∧
    (∀ n, (after n).targets = m.taken (calls.take n) ∧
      (after n).state = m.stateAfter (calls.take n)) ∧
    (∀ i j, i ≤ j → (after j).state = (after i).state ∨
      (after i).state = .unattached ∧
        (m = .one ∧ (after j).state = .fullyAttached ∨
          m = .many ∧ (after j).state = .partiallyAttached)) ∧
    ∀ i, (after i).state = .fullyAttached →
      m = .one ∧ ∀ j target, i ≤ j → ∃ e, (after j).attach target = .error e := by
  intro after
  have hafter (n : Nat) : after n = ⟨k, m, m.taken (calls.take n)⟩ := reached_attach k m _
  have hstate (n : Nat) : (after n).state = m.stateAfter (calls.take n) := by
    rw [hafter, state_taken]
  have hmore {i j : Nat} (hij : i ≤ j) : ∃ more, calls.take i ++ more = calls.take j :=
    List.take_prefix_take_left hij
  refine ⟨fun i target hcall => ⟨?_, ?_⟩, fun n => ⟨?_, hstate n⟩, fun i j hij => ?_,
    fun i hfull => ?_⟩
  · have hanswer : ((after i).attach target).map (fun _ => ()) =
        okUnless (m.refusal? k (calls.take i) target) () := by
      rw [hafter, attach_taken]
      cases m.refusal? k (calls.take i) target <;> rfl
    rw [getElem?_history, hcall, ← hanswer]
    rfl
  · have htake : calls.take (i + 1) = calls.take i ++ [target] := by
      rw [List.take_add_one, hcall]
      rfl
    rw [hafter, hafter, htake, m.taken_append_singleton k]
    split_ifs <;> rfl
  · rw [hafter]
  · obtain ⟨more, hmore⟩ := hmore hij
    rw [hstate, hstate, ← hmore]
    exact m.stateAfter_append _ _
  · rw [hstate] at hfull
    obtain ⟨rfl, hne⟩ := Multiplicity.eq_one_of_stateAfter hfull
    refine ⟨rfl, fun j target hij => ?_⟩
    obtain ⟨more, hmore⟩ := hmore hij
    obtain ⟨first, rest, hfirst⟩ := List.exists_cons_of_ne_nil hne
    rw [hafter, attach_taken, ← hmore, hfirst, List.cons_append, Multiplicity.refusal?]
    split_ifs
    · exact ⟨_, rfl⟩
    · exact ⟨_, rfl⟩

/-- A format takes one data object, and refuses another one for being too many and the same for
being there. -/
theorem history_attach_format :
    let start : TargetSet := ⟨.dataObjectFormat, .one, []⟩
    let full : TargetSet := ⟨.dataObjectFormat, .one, [⟨1⟩]⟩
    let calls : List DataObjectId := [⟨1⟩, ⟨2⟩, ⟨1⟩]
    (history attach start calls)[1]? =
        some (.error (.multiplicityExceeded .dataObjectFormat .one), full) ∧
      (history attach start calls)[2]? =
          some (.error (.alreadyAttachedToTarget .dataObjectFormat), full) ∧
        full.state = .fullyAttached ∧ ∃ e, full.attach ⟨3⟩ = .error e := by
  intro start full calls
  obtain ⟨hanswers, -, -, hfull⟩ := history_attach .dataObjectFormat .one calls
  obtain ⟨hsecond, -⟩ := hanswers 1 ⟨2⟩ rfl
  obtain ⟨hthird, -⟩ := hanswers 2 ⟨1⟩ rfl
  obtain ⟨-, hlater⟩ := hfull 1 rfl
  exact ⟨hsecond, hthird, rfl, hlater 3 ⟨3⟩ (by decide)⟩

end TargetSet

end AdvancedSignature
