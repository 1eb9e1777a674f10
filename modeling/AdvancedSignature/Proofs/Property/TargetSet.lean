import AdvancedSignature.Property.TargetSet
import Mathlib.Data.List.Nodup

/-!
# What a target set accepts

`TargetSet.attach` succeeds exactly on the targets that the set `Accepts`, and it keeps the set
within the multiplicity of its property (`TargetSet.IsConsistent`).
-/

namespace AdvancedSignature

namespace TargetSet

/-- The targets are distinct and no more than the multiplicity allows. -/
structure IsConsistent (s : TargetSet) : Prop where
  nodup : s.targets.Nodup
  eq_nil : s.multiplicity = .all → s.targets = []
  length_le : s.multiplicity = .one → s.targets.length ≤ 1

/-- One more target can be recorded, and it can be this one. -/
def Accepts (s : TargetSet) (target : DataObjectId) : Prop :=
  s.multiplicity ≠ .all ∧ target ∉ s.targets ∧ s.multiplicity.cap ≠ some s.targets.length

theorem isConsistent_nil (k : PropertyKind) (m : Multiplicity) : IsConsistent ⟨k, m, []⟩ :=
  ⟨List.nodup_nil, fun _ => rfl, fun _ => Nat.zero_le 1⟩

/-- The set records exactly what it accepts, at the end. -/
theorem attach_eq_ok_iff {s s' : TargetSet} {target : DataObjectId} :
    s.attach target = .ok s' ↔
      s.Accepts target ∧ s' = { s with targets := s.targets ++ [target] } := by
  unfold attach Accepts isAttachedTo
  split_ifs with hall hmem hcap
  · simp [hall]
  · simp [List.contains_iff_mem.1 hmem]
  · simp [hcap]
  · simp only [List.contains_iff_mem] at hmem
    simp [hall, hmem, hcap, eq_comm]

/-- A target that is not recorded is refused for what it asks of the multiplicity or for being
there already. -/
theorem error_of_attach {s : TargetSet} {target : DataObjectId} {e : Error}
    (h : s.attach target = .error e) :
    e = .appliesToAllDataObjects s.kind ∨ e = .alreadyAttachedToTarget s.kind ∨
      e = .multiplicityExceeded s.kind s.multiplicity := by
  unfold attach at h
  split_ifs at h <;> simp_all

/-- A property for one data object has one target. -/
theorem IsConsistent.eq_of_mem {s : TargetSet} (hs : s.IsConsistent) (hone : s.multiplicity = .one)
    {a b : DataObjectId} (ha : a ∈ s.targets) (hb : b ∈ s.targets) : a = b := by
  have hlength := Nat.le_antisymm (hs.length_le hone) (List.length_pos_of_mem ha)
  obtain ⟨x, hx⟩ := List.length_eq_one_iff.1 hlength
  rw [hx] at ha hb
  exact (List.mem_singleton.1 ha).trans (List.mem_singleton.1 hb).symm

/-- A property for one data object accepts a target only while it has none. -/
theorem Accepts.eq_nil {s : TargetSet} {target : DataObjectId} (hs : s.IsConsistent)
    (h : s.Accepts target) (hone : s.multiplicity = .one) : s.targets = [] := by
  have hle := hs.length_le hone
  have hcap := h.2.2
  simp only [hone, Multiplicity.cap, ne_eq, Option.some.injEq] at hcap
  exact List.eq_nil_of_length_eq_zero (by omega)

/-- Recording an accepted target keeps the set consistent. -/
theorem IsConsistent.push {s : TargetSet} (hs : s.IsConsistent) {target : DataObjectId}
    (h : s.Accepts target) : IsConsistent { s with targets := s.targets ++ [target] } where
  nodup := hs.nodup.append (List.nodup_singleton target) (by simpa using h.2.1)
  eq_nil hall := absurd hall h.1
  length_le hone := by
    rw [h.eq_nil hs hone]
    exact Nat.le_refl 1

end TargetSet

end AdvancedSignature
