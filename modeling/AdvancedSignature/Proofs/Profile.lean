import AdvancedSignature.Proofs.Outcome
import AdvancedSignature.Proofs.TimeStamp.Resolution

/-!
# What a profile guarantees

A configuration is checked once, when its profile is built.  What needs a provider comes much later,
and asks the profile for it then.  The check is good if nothing that the form needs is missing at
that point.

* `ProfileConfiguration.IsComplete` says what a configuration has to bring along, and
  `Profile.build_eq_ok_iff` that it is built exactly then.
* `Profile.VerifierRefuses` and `Profile.IssueRefused`: a provider that was asked has answered with
  an error.  With both time-stamp providers at hand no call has an error of another kind, unless the
  time-stamp is complete (`Profile.refused_of_stamp`, `Profile.refused_of_verify`).
* `Profile.CanProduce` puts together what the form of a profile can count on, which is so of every
  profile that was built (`Profile.build_canProduce`).
-/

namespace AdvancedSignature

/-! ## Complete configurations -/

section Configuration

variable {m : Type → Type}

/-- The configuration has all that its form needs. -/
structure ProfileConfiguration.IsComplete (c : ProfileConfiguration m) : Prop where
  /-- From T upwards tokens can be obtained and verified. -/
  timeStamps : .t ≤ c.form → c.timeStampTokens.isSome ∧ c.timeStampVerification.isSome
  /-- From C upwards certification paths can be validated. -/
  certificateValidation : .c ≤ c.form → c.certificateValidation.isSome
  /-- Whatever is canonicalized, a known canonicalization is chosen for it. -/
  canonicalizations : ∀ a ∈ [(c.algorithms.getD .standard).canonicalizationForSignature,
      (c.algorithms.getD .standard).canonicalizationForTimeStamps,
      (c.algorithms.getD .standard).canonicalizationForReferences],
    a.algorithm.uri ∈ Algorithm.canonicalizations

namespace Profile

theorem isOk_certificateValidation_iff {p : Profile m} :
    (∃ provider, p.certificateValidation = .ok provider) ↔ p.certificateValidation?.isSome := by
  unfold certificateValidation
  cases p.certificateValidation? <;> simp

theorem isOk_timeStampTokens_iff {p : Profile m} :
    (∃ provider, p.timeStampTokens = .ok provider) ↔ p.timeStampTokens?.isSome := by
  unfold timeStampTokens
  cases p.timeStampTokens? <;> simp

theorem isOk_timeStampVerification_iff {p : Profile m} :
    (∃ provider, p.timeStampVerification = .ok provider) ↔ p.timeStampVerification?.isSome := by
  unfold timeStampVerification
  cases p.timeStampVerification? <;> simp

theorem checkProviders_eq_ok_iff {p : Profile m} :
    p.checkProviders = .ok () ↔
      (.t ≤ p.form → p.timeStampTokens?.isSome ∧ p.timeStampVerification?.isSome) ∧
        (.c ≤ p.form → p.certificateValidation?.isSome) := by
  rw [← isOk_timeStampTokens_iff, ← isOk_timeStampVerification_iff,
    ← isOk_certificateValidation_iff]
  unfold checkProviders SignatureForm.needsTimeStamps SignatureForm.needsValidationData
  by_cases ht : SignatureForm.t ≤ p.form <;> by_cases hc : SignatureForm.c ≤ p.form <;>
    simp [ht, hc, bind_eq_ok_iff, pure, Except.pure, and_assoc]

theorem checkCanonicalization_eq_ok_iff {purpose : String} {a : AlgorithmChoice} {u : Unit} :
    checkCanonicalization purpose a = .ok u ↔
      a.algorithm.uri ∈ Algorithm.canonicalizations := by
  unfold checkCanonicalization Algorithm.isCanonicalization
  simp

theorem checkAlgorithms_eq_ok_iff {a : AlgorithmsProvider} :
    checkAlgorithms a = .ok () ↔
      ∀ choice ∈ [a.canonicalizationForSignature, a.canonicalizationForTimeStamps,
        a.canonicalizationForReferences], choice.algorithm.uri ∈ Algorithm.canonicalizations := by
  unfold checkAlgorithms
  simp [bind_eq_ok_iff, checkCanonicalization_eq_ok_iff]

theorem build_eq_ok_iff {c : ProfileConfiguration m} {p : Profile m} :
    build c = .ok p ↔ c.IsComplete ∧ ofConfiguration c = p := by
  have hcomplete : c.IsComplete ↔ (ofConfiguration c).checkProviders = .ok () ∧
      checkAlgorithms (ofConfiguration c).algorithms = .ok () := by
    rw [checkProviders_eq_ok_iff, checkAlgorithms_eq_ok_iff]
    exact ⟨fun h => ⟨⟨h.timeStamps, h.certificateValidation⟩, h.canonicalizations⟩,
      fun h => ⟨h.1.1, h.1.2, h.2⟩⟩
  unfold build
  simp [hcomplete, bind_eq_ok_iff, pure, Except.pure, and_assoc, Unique.exists_iff]

end Profile

end Configuration

/-! ## Errors of providers -/

namespace Profile

variable {σ : Type} {p : Profile (StateM σ)}

/-- The verifier is asked about the token and answers with the error: it rejects the token, or it
has no validation data for one that it accepts. -/
inductive VerifierRefuses (p : Profile (StateM σ)) (token bytes : Bytes) (w : σ) (e : Error) :
    σ → Prop
  | token {verifier : TimeStampVerificationProvider (StateM σ)} {w₁ : σ}
      (hsome : p.timeStampVerification? = some verifier)
      (htoken : (verifier.verifyToken token bytes).run w = (.error e, w₁)) :
      VerifierRefuses p token bytes w e w₁
  | validationData {verifier : TimeStampVerificationProvider (StateM σ)} {time : DateTime}
      {w₁ w₂ : σ} (hsome : p.timeStampVerification? = some verifier)
      (htoken : (verifier.verifyToken token bytes).run w = (.ok time, w₁))
      (hdata : (verifier.tokenValidationData token time).run w₁ = (.error e, w₂)) :
      VerifierRefuses p token bytes w e w₂

/-- A provider is asked for a time-stamp over the bytes and answers with the error: the authority
issues no token, or the verifier refuses the token that it has issued. -/
inductive IssueRefused (p : Profile (StateM σ)) (bytes : Bytes) (w : σ) (e : Error) : σ → Prop
  | authority {authority : TimeStampTokenProvider (StateM σ)} {w₁ : σ}
      (hsome : p.timeStampTokens? = some authority)
      (htoken : (authority.getToken bytes p.algorithms.digestForTimeStamps).run w =
        (.error e, w₁)) :
      IssueRefused p bytes w e w₁
  | verifier {authority : TimeStampTokenProvider (StateM σ)} {token : TimeStampToken} {w₁ w₂ : σ}
      (hsome : p.timeStampTokens? = some authority)
      (htoken : (authority.getToken bytes p.algorithms.digestForTimeStamps).run w =
        (.ok token, w₁))
      (hrefuses : p.VerifierRefuses token.encoded bytes w₁ e w₂) :
      IssueRefused p bytes w e w₂

/-- Where there is a verifier, it is the one that refuses a token. -/
theorem Verifies.verifierRefuses {token bytes : Bytes} {w w' : σ} {e : Error}
    (h : p.Verifies token bytes w (.error e) w') (hsome : p.timeStampVerification?.isSome) :
    p.VerifierRefuses token bytes w e w' := by
  cases h with
  | unequipped hnone => simp [hnone] at hsome
  | rejected hsome htoken => exact .token hsome htoken
  | unproven hsome htoken hdata => exact .validationData hsome htoken hdata

/-- Verifying a token fails because the verifier refuses it, unless the time-stamp is complete. -/
theorem refused_of_verify {ts left : TimeStamp} {token : Bytes} {input : DigestInput} {w w' : σ}
    {e : Error} (hverifier : p.timeStampVerification?.isSome)
    (h : (p.verify ts token input).run w = ((.error e, left), w')) :
    e = .timeStampAlreadyResolved ts.kind ∨ p.VerifierRefuses token input.bytes w e w' := by
  obtain ⟨d, _ | r⟩ := ts
  · obtain ⟨r, w₁, hverifies, haccept⟩ := p.exists_verifies d token input.bytes w
    have hrun : ((r.map Resolution.time, d.after r), w₁) = ((.error e, left), w') :=
      haccept.symm.trans h
    simp only [Prod.mk.injEq, map_eq_error_iff] at hrun
    obtain ⟨⟨rfl, -⟩, rfl⟩ := hrun
    exact .inr (hverifies.verifierRefuses hverifier)
  · left
    cases h
    rfl

/-- Having a token issued fails because a provider refuses, unless the time-stamp is complete. -/
theorem refused_of_stamp {ts left : TimeStamp} {input : DigestInput} {w w' : σ} {e : Error}
    (hauthority : p.timeStampTokens?.isSome) (hverifier : p.timeStampVerification?.isSome)
    (h : (p.stamp ts input).run w = ((.error e, left), w')) :
    e = .timeStampAlreadyResolved ts.kind ∨ p.IssueRefused input.bytes w e w' := by
  obtain ⟨d, _ | r⟩ := ts
  · obtain ⟨r, w₁, hattempt, hstamp⟩ := TimeStamp.Call.exists_attempt_stamp d p input w
    have hrun : ((r.map Resolution.time, d.after r), w₁) = ((.error e, left), w') :=
      hstamp.symm.trans h
    simp only [Prod.mk.injEq, map_eq_error_iff] at hrun
    obtain ⟨⟨rfl, -⟩, rfl⟩ := hrun
    right
    cases hattempt with
    | unequipped hnone => simp [hnone] at hauthority
    | unissued hsome htoken => exact .authority hsome htoken
    | issued hsome htoken hverifies =>
      exact .verifier hsome htoken (hverifies.verifierRefuses hverifier)
  · left
    cases h
    rfl

/-! ## Profiles that were built -/

/-- What the form of a profile can count on. -/
structure CanProduce (p : Profile (StateM σ)) : Prop where
  /-- From T upwards nothing is missing for having a token issued, unless a provider says so. -/
  stamp : .t ≤ p.form →
    ∀ (ts left : TimeStamp) (input : DigestInput) (w w' : σ) (name : String),
      (p.stamp ts input).run w = ((.error (.missingProvider name), left), w') →
        p.IssueRefused input.bytes w (.missingProvider name) w'
  /-- From T upwards nothing is missing for verifying a token, unless the verifier says so. -/
  verify : .t ≤ p.form →
    ∀ (ts left : TimeStamp) (token : Bytes) (input : DigestInput) (w w' : σ) (name : String),
      (p.verify ts token input).run w = ((.error (.missingProvider name), left), w') →
        p.VerifierRefuses token input.bytes w (.missingProvider name) w'
  /-- From C upwards there is something to validate certification paths with. -/
  certificateValidation : .c ≤ p.form → ∃ provider, p.certificateValidation = .ok provider
  /-- The digest inputs of all time-stamps that are declared can be canonicalized. -/
  canonicalization : ∀ kind,
    (p.declareTimeStamp kind).canonicalization.uri ∈ Algorithm.canonicalizations

/-- **A profile that was built can produce its form.**  Whatever the providers are, a configuration
is built exactly if it has both time-stamp providers from T upwards, path validation from C upwards
and a known canonicalization for each purpose.  The form of the profile is then the one asked for,
and no call finds a provider missing that the form needs. -/
theorem build_canProduce (c : ProfileConfiguration (StateM σ)) :
    ((∃ p, build c = .ok p) ↔ c.IsComplete) ∧
      ∀ p, build c = .ok p → p.form = c.form ∧ p.CanProduce := by
  refine ⟨by simp [build_eq_ok_iff], fun p hbuild => ?_⟩
  obtain ⟨hcomplete, rfl⟩ := build_eq_ok_iff.1 hbuild
  refine ⟨rfl, fun hform ts left input w w' name h => ?_,
    fun hform ts left token input w w' name h => ?_, fun hform => ?_, fun kind => ?_⟩
  · obtain ⟨htokens, hverification⟩ := hcomplete.timeStamps hform
    exact (refused_of_stamp htokens hverification h).resolve_left nofun
  · exact (refused_of_verify (hcomplete.timeStamps hform).2 h).resolve_left nofun
  · exact isOk_certificateValidation_iff.2 (hcomplete.certificateValidation hform)
  · exact hcomplete.canonicalizations _ (by simp [ofConfiguration])

/-- A configuration with an authority that only passes requests on, but has lost its upstream, and
with a verifier that accepts every token and cannot prove it.  The world counts how often they are
asked. -/
def relayed : ProfileConfiguration (StateM Nat) where
  form := .c
  certificateValidation := some ⟨fun _ _ _ w => (.error (.missingProvider "trust anchors"), w + 1)⟩
  timeStampTokens := some ⟨fun _ _ w => (.error (.missingProvider "upstream authority"), w + 1)⟩
  timeStampVerification := some
    { verifyToken := fun _ _ w => (.ok TimeStamp.Call.echoTime, w + 1)
      tokenValidationData := fun _ _ w => (.error (.missingProvider "trust anchors"), w + 1) }

/-- The profile is built, and what is missing then is what its providers miss. -/
theorem relayed_canProduce :
    let p := ofConfiguration relayed
    let d := p.declareTimeStamp .archive
    let input : DigestInput := ⟨d.canonicalization, [7]⟩
    relayed.IsComplete ∧ build relayed = .ok p ∧
      (p.stamp d.pending input).run 0 =
        ((.error (.missingProvider "upstream authority"), d.pending), 1) ∧
      p.IssueRefused [7] 0 (.missingProvider "upstream authority") 1 ∧
      (p.verify d.pending [0, 7] input).run 0 =
        ((.error (.missingProvider "trust anchors"), d.pending), 2) ∧
      p.VerifierRefuses [0, 7] [7] 0 (.missingProvider "trust anchors") 2 ∧
      (∃ provider, p.certificateValidation = .ok provider) ∧
      d.canonicalization.uri ∈ Algorithm.canonicalizations := by
  intro p d input
  have hbuild : build relayed = .ok p := rfl
  obtain ⟨hiff, hbuilt⟩ := build_canProduce relayed
  obtain ⟨-, hproduce⟩ := hbuilt p hbuild
  exact ⟨hiff.1 ⟨p, hbuild⟩, hbuild, rfl,
    hproduce.stamp (by decide) d.pending d.pending input 0 1 _ rfl, rfl,
    hproduce.verify (by decide) d.pending d.pending [0, 7] input 0 2 _ rfl,
    hproduce.certificateValidation (by decide), hproduce.canonicalization .archive⟩

end Profile

end AdvancedSignature
