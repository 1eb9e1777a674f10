import AdvancedSignature.Layout.Check
import AdvancedSignature.Proofs.History
import AdvancedSignature.Proofs.Property.Bag

/-!
# Bags as lists

A bag answers questions about kinds from its counts.  Nothing of this shows: a bag behaves like a
plain list of properties in which every question is answered by looking through the list.

* `Listing` holds the operations on such a list, where to remove a property is to keep the others.
* `BagCall` is any operation with its argument.
* `Bag.history_eq_listing`: whatever the calls, bag and list answer alike and hold the same.
-/

namespace AdvancedSignature

/-! ## Plain lists -/

/-- An operation on a container of properties. -/
inductive BagCall (α : Type) where
  | put (p : α)
  | add (p : α)
  | putOrAdd (p : α)
  | remove (p : α)
  deriving DecidableEq

/-- The operation leaves it to the kind how a property is taken in. -/
def BagCall.IsByPolicy {α : Type} : BagCall α → Prop
  | .putOrAdd _ | .remove _ => True
  | .put _ | .add _ => False

namespace Listing

variable {α : Type} [HasKind α] [DecidableEq α]

/-- Appends a property unless there is one of its kind. -/
def put (l : List α) (p : α) : Except Error (List α) :=
  if ∃ q ∈ l, HasKind.kind q = HasKind.kind p then
    .error (.duplicatePropertyKind (HasKind.kind p))
  else .ok (l ++ [p])

/-- Appends a property unless it is there. -/
def add (l : List α) (p : α) : Except Error (List α) :=
  if p ∈ l then .error (.duplicateInstance (HasKind.kind p)) else .ok (l ++ [p])

/-- Keeps all properties but one that is there. -/
def remove (l : List α) (p : α) : Except Error (List α) :=
  if p ∈ l then .ok (l.filter (· ≠ p)) else .error (.notPresent (HasKind.kind p))

/-- Carries out an operation on a plain list. -/
def call (l : List α) : BagCall α → Except Error (List α)
  | .put p => put l p
  | .add p => add l p
  | .putOrAdd p =>
      match (HasKind.kind p).insertionPolicy with
      | .put => put l p
      | .add => add l p
  | .remove p => remove l p

end Listing

/-! ## Bags behave like plain lists -/

namespace Bag

variable {α : Type} [HasKind α] [DecidableEq α]

/-- Carries out an operation on a bag. -/
def call (b : Bag α) : BagCall α → Except Error (Bag α)
  | .put p => b.put p
  | .add p => b.add p
  | .putOrAdd p => b.putOrAdd p
  | .remove p => b.remove p

omit [DecidableEq α] in
/-- The counts say whether there is a property of the kind. -/
theorem IsConsistent.entries_put {b : Bag α} (hb : b.IsConsistent) (p : α) :
    (b.put p).map entries = Listing.put b.entries p := by
  have hkind := hb.containsKind_iff (HasKind.kind p)
  rw [List.mem_map] at hkind
  unfold put Listing.put
  by_cases h : ∃ q ∈ b.entries, HasKind.kind q = HasKind.kind p
  · rw [if_pos h, if_pos (hkind.2 h)]
    rfl
  · rw [if_neg h, if_neg (mt hkind.1 h)]
    rfl

theorem entries_add (b : Bag α) (p : α) :
    (b.add p).map entries = Listing.add b.entries p := by
  simp only [add, Listing.add, contains, List.contains_iff_mem]
  split_ifs <;> rfl

theorem IsConsistent.entries_remove {b : Bag α} (hb : b.IsConsistent) (p : α) :
    (b.remove p).map entries = Listing.remove b.entries p := by
  rw [hb.remove_eq, Listing.remove]
  split_ifs <;> rfl

/-- A consistent bag answers every call as the list of its entries does. -/
theorem IsConsistent.entries_call {b : Bag α} (hb : b.IsConsistent) (c : BagCall α) :
    (b.call c).map entries = Listing.call b.entries c := by
  cases c with
  | put p => exact hb.entries_put p
  | add p => exact entries_add b p
  | putOrAdd p =>
    simp only [call, putOrAdd, Listing.call]
    cases (HasKind.kind p).insertionPolicy with
    | put => exact hb.entries_put p
    | add => exact entries_add b p
  | remove p => exact hb.entries_remove p

omit [DecidableEq α] in
theorem IsConsistent.put {b b' : Bag α} (hb : b.IsConsistent) {p : α} (h : b.put p = .ok b') :
    b'.IsConsistent := by
  unfold Bag.put at h
  split_ifs at h with hkind
  cases h
  -- a property whose kind does not occur is not there itself
  exact hb.append (not_mem_of_kind (mt (hb.containsKind_iff _).2 hkind))

theorem IsConsistent.add {b b' : Bag α} (hb : b.IsConsistent) {p : α} (h : b.add p = .ok b') :
    b'.IsConsistent := by
  unfold Bag.add at h
  split_ifs at h with hp
  cases h
  exact hb.append (mt List.contains_iff_mem.2 hp)

/-- Every call keeps a bag consistent. -/
theorem IsConsistent.call {b b' : Bag α} (hb : b.IsConsistent) {c : BagCall α}
    (h : b.call c = .ok b') : b'.IsConsistent := by
  cases c with
  | put p => exact hb.put h
  | add p => exact hb.add h
  | putOrAdd p =>
    obtain ⟨hadmits, rfl⟩ := (hb.putOrAdd_eq_ok_iff p).1 h
    exact hb.append hadmits.1
  | remove p => exact (hb.remove h).1

/-- A call that goes by the policy of the kind keeps a bag disciplined. -/
theorem IsDisciplined.call {b b' : Bag α} (hb : b.IsDisciplined) {c : BagCall α}
    (hc : c.IsByPolicy) (h : b.call c = .ok b') : b'.IsDisciplined := by
  cases c with
  | put p | add p => cases hc
  | putOrAdd p => exact hb.putOrAdd h
  | remove p => exact hb.remove h

/-- **The counts of a bag do not show.**  Over any calls on a new bag the answers and the entries are
those of a plain list.  At all times no property is listed twice, and the counts are the kinds that
occur with the number of their occurrences.  If properties are taken in by the policy of their
kinds only, a kind that is put is never listed twice. -/
theorem history_eq_listing (calls : List (BagCall α)) :
    (history call ({} : Bag α) calls).map (Prod.map id entries) = history Listing.call [] calls ∧
      (∀ r ∈ history call ({} : Bag α) calls,
        r.2.entries.Nodup ∧ (r.2.counts.entries.map Prod.fst).Nodup ∧
          ∀ k n, (k, n) ∈ r.2.counts.entries ↔
            0 < n ∧ n = (r.2.entries.map HasKind.kind).count k) ∧
      ((∀ c ∈ calls, c.IsByPolicy) → ∀ r ∈ history call ({} : Bag α) calls,
        ∀ k : PropertyKind, k.insertionPolicy = .put →
          (r.2.entries.map HasKind.kind).count k ≤ 1) := by
  refine ⟨?_, fun r hr => ?_, fun hcalls r hr k hk => ?_⟩
  · exact history_refines (fun b c hb => IsConsistent.entries_call hb c)
      (fun b c b' hb h => IsConsistent.call hb h) isConsistent_empty calls
  · have hb : r.2.IsConsistent := history_keeps (fun _ => True)
      (fun b c b' hb _ h => IsConsistent.call hb h) isConsistent_empty (fun _ _ => trivial) r hr
    exact ⟨hb.nodup, hb.counts.nodup, fun k n => hb.counts.mem_entries_iff⟩
  · have hb : r.2.IsDisciplined :=
      history_keeps BagCall.IsByPolicy (fun b c b' hb hc h => IsDisciplined.call hb hc h)
        isDisciplined_empty hcalls r hr
    have hlength := hb.length_ofKind_le hk
    rw [ofKind, ← List.countP_eq_length_filter] at hlength
    rw [List.count, List.countP_map]
    exact hlength

/-- A kind that is put is taken in again once its property is out, and a property that is added
comes back at the end; in between both are refused. -/
theorem history_of_removals :
    let time : FoundProperty := ⟨0, .signingTime⟩
    let laterTime : FoundProperty := ⟨1, .signingTime⟩
    let commitment : FoundProperty := ⟨2, .commitmentType⟩
    let second : FoundProperty := ⟨3, .commitmentType⟩
    let calls : List (BagCall FoundProperty) :=
      [.putOrAdd time, .putOrAdd laterTime, .putOrAdd commitment, .putOrAdd second,
        .putOrAdd commitment, .remove commitment, .remove commitment, .putOrAdd commitment,
        .remove time, .putOrAdd laterTime]
    history Listing.call [] calls =
        [(.ok (), [time]),
          (.error (.duplicatePropertyKind .signingTime), [time]),
          (.ok (), [time, commitment]),
          (.ok (), [time, commitment, second]),
          (.error (.duplicateInstance .commitmentType), [time, commitment, second]),
          (.ok (), [time, second]),
          (.error (.notPresent .commitmentType), [time, second]),
          (.ok (), [time, second, commitment]),
          (.ok (), [second, commitment]),
          (.ok (), [second, commitment, laterTime])] ∧
      (history call ({} : Bag FoundProperty) calls).map (Prod.map id entries) =
        history Listing.call [] calls ∧
      ∀ r ∈ history call ({} : Bag FoundProperty) calls,
        ∀ k : PropertyKind, k.insertionPolicy = .put →
          (r.2.entries.map HasKind.kind).count k ≤ 1 := by
  intro time laterTime commitment second calls
  obtain ⟨hlist, -, hput⟩ := history_eq_listing calls
  exact ⟨rfl, hlist, hput (by simp [calls, BagCall.IsByPolicy])⟩

end Bag

end AdvancedSignature
