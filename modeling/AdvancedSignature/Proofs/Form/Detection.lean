import AdvancedSignature.Form.Detection
import Mathlib.Order.Bounds.Basic

/-!
# Detecting and checking forms

Detection walks the forms downwards in their order, and checking walks the lineage of one form
upwards.  Both look at which kinds there are and at nothing else.

* `SignatureForm.check_eq_ok_iff` and `SignatureForm.check_eq_error_iff` say when a form is
  accepted and which kind a refusal names.
* `SignatureForm.requiredKinds_subset` fits the requirements to the lineage: a form requires all
  that the forms below it in its lineage require.
* `SignatureForm.detect?_eq_some_iff` says that detection finds the greatest form accepted.
* `SignatureForm.detection_agrees_with_check` puts the two together.
-/

namespace AdvancedSignature.SignatureForm

variable {f g : SignatureForm} {kinds more others : List PropertyKind}

/-! ## The order of the forms -/

theorem eq_of_le_of_le (hfg : f ≤ g) (hgf : g ≤ f) : f = g := by
  revert hfg hgf
  cases f <;> cases g <;> decide

/-- The forms are listed in their order, each once. -/
theorem pairwise_values : values.Pairwise (· < ·) := by decide

/-- A lineage goes upwards in the order of the forms. -/
theorem pairwise_lineage (f : SignatureForm) : f.lineage.Pairwise (· < ·) := by
  cases f <;> decide

/-- The lineage of a form in a lineage is a part of it. -/
theorem lineage_subset (h : g ∈ f.lineage) : g.lineage ⊆ f.lineage := by
  revert h
  cases f <;> cases g <;> decide

theorem bes_mem_lineage (f : SignatureForm) : bes ∈ f.lineage := by
  cases f <;> decide

/-! ## Checking -/

/-- A form requires what the forms of its lineage require. -/
theorem requiredKinds_subset (h : g ∈ f.lineage) : g.requiredKinds ⊆ f.requiredKinds :=
  fun _ hk => by
    obtain ⟨step, hstep, hk⟩ := List.mem_flatMap.1 hk
    exact List.mem_flatMap.2 ⟨step, lineage_subset h hstep, hk⟩

/-- A form is accepted when all kinds that it requires are there. -/
theorem check_eq_ok_iff : f.check kinds = .ok () ↔ f.requiredKinds ⊆ kinds := by
  unfold check
  split
  · next missing hfind =>
    have habsent : missing ∉ kinds := by simpa using List.find?_some hfind
    exact iff_of_false nofun fun h => habsent (h (List.mem_of_find?_eq_some hfind))
  · next hfind =>
    exact iff_of_true rfl fun k hk => by simpa using List.find?_eq_none.1 hfind k hk

theorem check_of_mem_lineage (h : f.check kinds = .ok ()) (hg : g ∈ f.lineage) :
    g.check kinds = .ok () :=
  check_eq_ok_iff.2 (List.Subset.trans (requiredKinds_subset hg) (check_eq_ok_iff.1 h))

theorem check_mono (hmore : kinds ⊆ more) (h : f.check kinds = .ok ()) : f.check more = .ok () :=
  check_eq_ok_iff.2 (List.Subset.trans (check_eq_ok_iff.1 h) hmore)

theorem isSatisfied_iff : f.isSatisfied kinds = true ↔ f.check kinds = .ok () := by
  rw [check_eq_ok_iff, isSatisfied, List.all_eq_true]
  simp only [List.contains_iff_mem, List.subset_def]

/-- A check looks at which kinds there are, not at their order or number. -/
theorem check_congr (h : ∀ k, k ∈ others ↔ k ∈ kinds) : f.check others = f.check kinds := by
  have hcontains : others.contains = kinds.contains := by
    funext k
    rw [Bool.eq_iff_iff, List.contains_iff_mem, List.contains_iff_mem, h]
  rw [check, check, hcontains]

/-- The kind is the first of the lineage to be absent, from BES upwards: all that lower forms of the
lineage add is there, and so is what its own form lists before it. -/
structure IsFirstAbsent (f : SignatureForm) (kinds : List PropertyKind)
    (missing : PropertyKind) : Prop where
  absent : missing ∉ kinds
  first : ∃ g ∈ f.lineage, (∀ lower ∈ f.lineage, lower < g → lower.ownRequirements ⊆ kinds) ∧
    ∃ before after, g.ownRequirements = before ++ missing :: after ∧ before ⊆ kinds

/-- In forms that go upwards the first kind that is absent is found at the lowest form that adds
one. -/
theorem find?_flatMap_ownRequirements {forms : List SignatureForm}
    (hforms : forms.Pairwise (· < ·)) {missing : PropertyKind} :
    (forms.flatMap ownRequirements).find? (fun k => !kinds.contains k) = some missing ↔
      missing ∉ kinds ∧
        ∃ g ∈ forms, (∀ lower ∈ forms, lower < g → lower.ownRequirements ⊆ kinds) ∧
          ∃ before after, g.ownRequirements = before ++ missing :: after ∧ before ⊆ kinds := by
  have hown (g : SignatureForm) :
      g.ownRequirements.find? (fun k => !kinds.contains k) = some missing ↔
        missing ∉ kinds ∧ ∃ before after, g.ownRequirements = before ++ missing :: after ∧
          before ⊆ kinds := by
    rw [List.find?_eq_some_iff_append]
    simp [List.subset_def]
  have hnone (g : SignatureForm) :
      g.ownRequirements.find? (fun k => !kinds.contains k) = none ↔
        g.ownRequirements ⊆ kinds := by
    simp [List.find?_eq_none, List.subset_def]
  rw [List.find?_flatMap, List.findSome?_eq_some_iff]
  simp only [hown, hnone]
  constructor
  · rintro ⟨lower, g, higher, rfl, ⟨habsent, hfirst⟩, hlower⟩
    refine ⟨habsent, g, by simp, fun h hh hlt => ?_, hfirst⟩
    rcases List.mem_append.1 hh with hh | hh
    · exact hlower h hh
    · -- nothing behind a form is below it
      obtain ⟨-, hhigher, -⟩ := List.pairwise_append.1 hforms
      rcases List.mem_cons.1 hh with rfl | hh
      · exact absurd hlt (Nat.lt_irrefl _)
      · exact absurd hlt (Nat.lt_asymm ((List.pairwise_cons.1 hhigher).1 h hh))
  · rintro ⟨habsent, g, hg, hlower, hfirst⟩
    obtain ⟨lower, higher, rfl⟩ := List.append_of_mem hg
    refine ⟨lower, g, higher, rfl, ⟨habsent, hfirst⟩, fun h hh => hlower h (by simp [hh]) ?_⟩
    exact (List.pairwise_append.1 hforms).2.2 h hh g List.mem_cons_self

theorem check_eq_error_iff {e : Error} :
    f.check kinds = .error e ↔
      ∃ missing, f.IsFirstAbsent kinds missing ∧ e = .formRequirement f missing := by
  have habsent (missing : PropertyKind) : f.IsFirstAbsent kinds missing ↔
      f.requiredKinds.find? (fun k => !kinds.contains k) = some missing := by
    rw [requiredKinds, find?_flatMap_ownRequirements f.pairwise_lineage]
    exact ⟨fun h => ⟨h.absent, h.first⟩, fun h => ⟨h.1, h.2⟩⟩
  simp only [habsent, check]
  cases f.requiredKinds.find? fun k => !kinds.contains k with
  | none => simp
  | some missing => simp [eq_comm]

/-! ## Detecting -/

theorem detect?_eq_none_iff :
    detect? kinds = none ↔ ∀ f : SignatureForm, f.check kinds ≠ .ok () := by
  simp only [detect?, List.find?_eq_none, isSatisfied_iff, List.mem_reverse, mem_values,
    forall_const, ne_eq]

/-- Every form has the basic one in its lineage, so that nothing is detected if that is refused. -/
theorem detect?_eq_none_iff_bes : detect? kinds = none ↔ ∃ e, bes.check kinds = .error e := by
  rw [detect?_eq_none_iff]
  constructor
  · intro h
    cases hbes : bes.check kinds with
    | error e => exact ⟨e, rfl⟩
    | ok u => exact absurd hbes (h bes)
  · rintro ⟨e, he⟩ f hf
    have hbes := check_of_mem_lineage hf (bes_mem_lineage f)
    rw [he] at hbes
    cases hbes

theorem isGreatest_of_detect? (h : detect? kinds = some f) :
    IsGreatest {g | g.check kinds = .ok ()} f := by
  obtain ⟨hf, above, below, hsplit, habove⟩ := List.find?_eq_some_iff_append.1 h
  refine ⟨isSatisfied_iff.1 hf, fun g hg => ?_⟩
  have hmem : g ∈ above ++ f :: below := by
    rw [← hsplit, List.mem_reverse]
    exact mem_values g
  rcases List.mem_append.1 hmem with hg' | hg'
  · -- what stands above the form that is found is not accepted
    have hnot := habove g hg'
    rw [isSatisfied_iff.2 hg] at hnot
    cases hnot
  · have hdown : (above ++ f :: below).Pairwise fun g h => h < g :=
      hsplit ▸ List.pairwise_reverse.2 pairwise_values
    obtain ⟨-, hbelow, -⟩ := List.pairwise_append.1 hdown
    rcases List.mem_cons.1 hg' with rfl | hg'
    · exact Nat.le_refl _
    · exact Nat.le_of_lt ((List.pairwise_cons.1 hbelow).1 g hg')

/-- A form that is accepted is detected, or a greater one is. -/
theorem exists_detect?_of_check (h : f.check kinds = .ok ()) :
    ∃ d, detect? kinds = some d ∧ f ≤ d := by
  cases hd : detect? kinds with
  | none => exact absurd h (detect?_eq_none_iff.1 hd f)
  | some d => exact ⟨d, rfl, (isGreatest_of_detect? hd).2 h⟩

/-- Detection finds the greatest of the forms that are accepted. -/
theorem detect?_eq_some_iff :
    detect? kinds = some f ↔ IsGreatest {g | g.check kinds = .ok ()} f := by
  refine ⟨isGreatest_of_detect?, fun h => ?_⟩
  obtain ⟨d, hd, hle⟩ := exists_detect?_of_check h.1
  rw [hd, eq_of_le_of_le hle (h.2 (isGreatest_of_detect? hd).1)]

theorem detect?_congr (h : ∀ k, k ∈ others ↔ k ∈ kinds) : detect? others = detect? kinds := by
  have hsatisfied (f : SignatureForm) : f.isSatisfied others = f.isSatisfied kinds := by
    rw [Bool.eq_iff_iff, isSatisfied_iff, isSatisfied_iff, check_congr h]
  simp only [detect?, hsatisfied]

/-- **Detecting and checking agree.**  The form detected is the greatest one that is accepted, and
there is none exactly if the basic form is refused.  What is accepted for a form is accepted for all
its lineage, and goes on being accepted when kinds are added.  A refusal names the kind that is
absent first, from the basic form upwards.  All this depends on which kinds there are, not on their
order or number. -/
theorem detection_agrees_with_check (kinds : List PropertyKind) :
    (∀ f, detect? kinds = some f ↔ IsGreatest {g | g.check kinds = .ok ()} f) ∧
    (detect? kinds = none ↔ ∃ e, bes.check kinds = .error e) ∧
    (∀ f : SignatureForm, f.check kinds = .ok () →
      (∀ g ∈ f.lineage, g.check kinds = .ok ()) ∧ ∃ d, detect? kinds = some d ∧ f ≤ d) ∧
    (∀ more, kinds ⊆ more →
      (∀ f : SignatureForm, f.check kinds = .ok () → f.check more = .ok ()) ∧
        ∀ f, detect? kinds = some f → ∃ d, detect? more = some d ∧ f ≤ d) ∧
    (∀ (f : SignatureForm) (e : Error), f.check kinds = .error e ↔
      ∃ missing, f.IsFirstAbsent kinds missing ∧ e = .formRequirement f missing) ∧
    ∀ others, (∀ k, k ∈ others ↔ k ∈ kinds) →
      detect? others = detect? kinds ∧ ∀ f : SignatureForm, f.check others = f.check kinds := by
  refine ⟨fun f => detect?_eq_some_iff, detect?_eq_none_iff_bes,
    fun f hf => ⟨fun g => check_of_mem_lineage hf, ?_⟩,
    fun more hmore => ⟨fun f hf => ?_, fun f hf => ?_⟩, fun f e => check_eq_error_iff,
    fun others h => ⟨detect?_congr h, fun f => check_congr h⟩⟩
  · exact exists_detect?_of_check hf
  · exact check_mono hmore hf
  · exact exists_detect?_of_check (check_mono hmore (isGreatest_of_detect? hf).1)

/-- A signature with a policy and a time-stamp is detected as the later of the two forms, and not as
a lower one when there is more; which reference is absent first does not depend on the order. -/
theorem detection_agrees_with_check_of_policy :
    let kinds : List PropertyKind :=
      [.signatureTimeStamp, .completeRevocationRefs, .signaturePolicy, .signatureTimeStamp,
        .signingCertificate]
    detect? kinds = some t ∧ (∀ g ∈ epes.lineage, g.check kinds = .ok ()) ∧
      (∃ d, detect? (.sigAndRefsTimeStamp :: kinds) = some d ∧ t ≤ d) ∧
        a.check kinds = .error (.formRequirement a .completeCertificateRefs) ∧
          a.IsFirstAbsent kinds .completeCertificateRefs := by
  intro kinds
  obtain ⟨-, -, hlineage, hmore, herror, -⟩ := detection_agrees_with_check kinds
  have ha : a.check kinds = .error (.formRequirement a .completeCertificateRefs) := by decide
  refine ⟨by decide, (hlineage epes (by decide)).1, ?_, ha, ?_⟩
  · exact (hmore _ (List.subset_cons_self _ kinds)).2 t (by decide)
  · obtain ⟨missing, habsent, h⟩ := (herror a _).1 ha
    cases h
    exact habsent

end AdvancedSignature.SignatureForm
