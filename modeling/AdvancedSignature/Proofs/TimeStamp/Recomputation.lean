import AdvancedSignature.Proofs.TimeStamp.Composition
import AdvancedSignature.Proofs.TimeStamp.Resolution

/-!
# Recomputing the digest input of a time-stamp

A token that was issued for a signature is verified later, by someone who has the signature only:
the token, the canonicalization that is recorded with it, and the sources.  The digest input has to
be computed again from these.

* `TimeStampSources.canonicalization_of_digestInput`: a digest input keeps the canonicalization that
  it was built under.
* `Profile.VerifiesAlike`: the answers of the verifier are functions of what it is asked.  Then a
  token that it accepted it accepts again (`Profile.VerifiesAlike.accepts_again`).
* `Profile.verify_of_stamp`: what was stamped verifies, with the same outcome.
* `TimeStamp.Call.recorded_canonicalization`: what is recorded is the canonicalization of the
  declaration, whatever the input was built under.  That the two agree is left to the caller.
-/

namespace AdvancedSignature

variable {σ Node Reference : Type}

/-! ## Building a digest input -/

/-- A digest input keeps the canonicalization that it was built under. -/
theorem TimeStampSources.canonicalization_of_digestInput {engine : XmlEngine Node Reference}
    {c : Algorithm} {sources : TimeStampSources Node Reference} {input : DigestInput}
    (h : sources.digestInput engine c = .ok input) : input.canonicalization = c := by
  obtain ⟨parts, -, rfl⟩ := ((DigestInput.composes engine c sources.inOrder).eq_ok_iff input).1 h
  rfl

/-! ## Verifying again -/

/-- What the computation answers does not depend on the world. -/
def AnswersAlike {α : Type} (x : StateM σ α) : Prop := ∀ w w', (x.run w).1 = (x.run w').1

/-- What the computation answers in one world it answers in any other. -/
theorem AnswersAlike.exists_run_eq {α : Type} {x : StateM σ α} (hx : AnswersAlike x) {w w₁ : σ}
    {a : α} (h : x.run w = (a, w₁)) (w' : σ) : ∃ w₁', x.run w' = (a, w₁') := by
  have hanswer : a = (x.run w').1 := by
    have hsame := hx w w'
    rwa [h] at hsame
  exact ⟨(x.run w').2, Prod.ext hanswer.symm rfl⟩

namespace Profile

/-- What the verifier answers depends only on what it is asked.  The authority that issues tokens
may answer as it likes. -/
def VerifiesAlike (p : Profile (StateM σ)) : Prop :=
  ∀ verifier, p.timeStampVerification? = some verifier →
    (∀ token bytes, AnswersAlike (verifier.verifyToken token bytes)) ∧
      ∀ token time, AnswersAlike (verifier.tokenValidationData token time)

/-- The token that is accepted is the one that is recorded. -/
theorem Verifies.token_eq {p : Profile (StateM σ)} {token bytes : Bytes} {r : Resolution}
    {w w₁ : σ} (h : p.Verifies token bytes w (.ok r) w₁) : token = r.token := by
  cases h with
  | accepted => rfl

/-- A token that was accepted over some bytes is accepted over them again, with the same time and
the same validation data. -/
theorem VerifiesAlike.accepts_again {p : Profile (StateM σ)} (hp : p.VerifiesAlike)
    {token bytes : Bytes} {r : Resolution} {w w₁ : σ}
    (h : p.Verifies token bytes w (.ok r) w₁) (w' : σ) :
    ∃ w₁', p.Verifies token bytes w' (.ok r) w₁' := by
  cases h with
  | accepted hsome htoken hdata =>
    obtain ⟨hverify, hprove⟩ := hp _ hsome
    obtain ⟨w₁', htoken'⟩ := (hverify _ _).exists_run_eq htoken w'
    obtain ⟨w₂', hdata'⟩ := (hprove _ _).exists_run_eq hdata w₁'
    exact ⟨w₂', .accepted hsome htoken' hdata'⟩

/-- What a time-stamp is completed with when a token is issued for it: the verifier has accepted
the token over the input. -/
theorem exists_verifies_of_stamp {p : Profile (StateM σ)} {d : TimeStampDeclaration}
    {input : DigestInput} {time : DateTime} {resolved : TimeStamp} {w w₁ : σ}
    (h : (p.stamp d.pending input).run w = ((.ok time, resolved), w₁)) :
    ∃ r w₀, resolved = d.completed r ∧ time = r.time ∧
      p.Verifies r.token input.bytes w₀ (.ok r) w₁ := by
  obtain ⟨r, w', hattempt, hstamp⟩ := TimeStamp.Call.exists_attempt_stamp d p input w
  rw [hstamp] at h
  cases r with
  | error e => cases h
  | ok r =>
    cases h
    cases hattempt with
    | issued _ _ hverifies =>
      exact ⟨r, _, rfl, rfl, hverifies.token_eq ▸ hverifies⟩

/-- **What was stamped verifies.**  A time-stamp is stamped over a digest input that is built from
its sources under its canonicalization.  Whenever later the input is built from the sources again,
under the canonicalization that is recorded, the token that is recorded completes any time-stamp
with that canonicalization by the same time and validation data. -/
theorem verify_of_stamp {p : Profile (StateM σ)} (hp : p.VerifiesAlike)
    {engine : XmlEngine Node Reference} {sources : TimeStampSources Node Reference}
    {d : TimeStampDeclaration} {input : DigestInput}
    (hinput : sources.digestInput engine d.pending.canonicalization = .ok input)
    {w w₁ : σ} {time : DateTime} {resolved : TimeStamp}
    (hstamp : (p.stamp d.pending input).run w = ((.ok time, resolved), w₁)) :
    ∃ r, resolved = d.completed r ∧
      ∀ (d' : TimeStampDeclaration) (w' : σ),
        d'.pending.canonicalization = resolved.canonicalization →
        ∃ input' w₁', sources.digestInput engine resolved.canonicalization = .ok input' ∧
          (p.verify d'.pending r.token input').run w' = ((.ok time, d'.completed r), w₁') ∧
          (d'.completed r).canonicalization = resolved.canonicalization := by
  obtain ⟨r, w₀, rfl, rfl, hverifies⟩ := exists_verifies_of_stamp hstamp
  refine ⟨r, rfl, fun d' w' hd' => ?_⟩
  obtain ⟨w₁', hagain⟩ := hp.accepts_again hverifies w'
  have hpending : ¬ d'.pending.isResolved = true := Bool.false_ne_true
  refine ⟨input, w₁', hinput, ?_, hd'⟩
  rw [verify, if_neg hpending]
  exact hagain.run_accept d'

end Profile

/-- An engine on octets, whose canonical form tells how many parameters the algorithm has. -/
def counting : XmlEngine UInt8 (ReferenceContent UInt8) where
  content := .ok
  canonicalize nodes c := .ok (UInt8.ofNat c.params.length :: nodes)

/-- Exclusive canonicalization with a list of prefixes that are to be treated inclusively. -/
def exclusiveWithPrefixes : Algorithm := ⟨Algorithm.exclusiveC14n, ["ds xades"]⟩

open TimeStamp.Call (echo echoTime) in
/-- The token over a reference to octets, one to nodes and four nodes verifies for a time-stamp of
another kind, whatever was asked before. -/
theorem Profile.verify_of_stamp_archive :
    let d : TimeStampDeclaration := ⟨.archive, exclusiveWithPrefixes⟩
    let d' : TimeStampDeclaration := ⟨.sigAndRefs, exclusiveWithPrefixes⟩
    let sources : TimeStampSources UInt8 (ReferenceContent UInt8) :=
      .archive ⟨[.octets [7], .nodes [8, 9]], 10, 11, none, [12], [13]⟩
    let input : DigestInput :=
      ⟨exclusiveWithPrefixes, [7, 1, 8, 9, 1, 10, 1, 11, 1, 12, 1, 13]⟩
    let r : Resolution := ⟨0 :: input.bytes, echoTime, ⟨[⟨[]⟩], [], List.cons_ne_nil _ _⟩⟩
    sources.digestInput counting exclusiveWithPrefixes = .ok input ∧
      (echo.stamp d.pending input).run 0 = ((.ok echoTime, d.completed r), 3) ∧
        ∃ input' calls, sources.digestInput counting exclusiveWithPrefixes = .ok input' ∧
          (echo.verify d'.pending r.token input').run 9 =
            ((.ok echoTime, d'.completed r), calls) := by
  intro d d' sources input r
  have halike : echo.VerifiesAlike := by
    intro verifier hsome
    cases hsome
    exact ⟨fun _ _ _ _ => rfl, fun _ _ _ _ => rfl⟩
  have hinput : sources.digestInput counting d.pending.canonicalization = .ok input := rfl
  have hstamp : (echo.stamp d.pending input).run 0 = ((.ok echoTime, d.completed r), 3) := rfl
  obtain ⟨r', hr, hverify⟩ := Profile.verify_of_stamp halike hinput hstamp
  obtain rfl : r = r' := Option.some.inj (congrArg TimeStamp.resolution hr)
  obtain ⟨input', calls, hagain, hrun, -⟩ := hverify d' 9 rfl
  exact ⟨hinput, hstamp, input', calls, hagain, hrun⟩

/-! ## The canonicalization that is recorded -/

namespace TimeStamp.Call

variable {m : Type → Type}

/-- The digest input that a call is given. -/
def input? : Call m → Option DigestInput
  | .resolve _ _ => none
  | .stamp _ input => some input
  | .verify _ _ input => some input

/-- The call with an input of the same bytes that is built under another canonicalization. -/
def under (c : Algorithm) : Call m → Call m
  | .resolve token data => .resolve token data
  | .stamp p input => .stamp p { input with canonicalization := c }
  | .verify p token input => .verify p token { input with canonicalization := c }

/-- Of its input a call looks at the bytes only. -/
theorem perform_under [Monad m] (ts : TimeStamp) (call : Call m) (c : Algorithm) :
    perform ts (call.under c) = perform ts call := by
  cases call <;> rfl

/-- A call that fails leaves the time-stamp as it was, and one that succeeds changes no
declaration. -/
theorem of_run_perform (ts : TimeStamp) (call : Call (StateM σ)) (w : σ) :
    let result := ((perform ts call).run w).1
    (∀ e, result.1 = .error e → result.2 = ts) ∧
      (∀ t, result.1 = .ok t → result.2.isResolved ∧
        result.2.declaration = ts.declaration) := by
  intro result
  rcases perform_cases ts call w with ⟨e, w', hperform⟩ | ⟨-, answer, r, w', hperform⟩
  · have hresult : result = (.error e, ts) := congrArg Prod.fst hperform
    rw [hresult]
    exact ⟨fun _ _ => rfl, fun _ h => nomatch h⟩
  · have hresult : result = (.ok answer, ts.declaration.completed r) := congrArg Prod.fst hperform
    rw [hresult]
    exact ⟨fun _ h => (nomatch h), fun _ _ => ⟨rfl, rfl⟩⟩

/-- **What is recorded is the canonicalization of the declaration.**  A call asks and answers the
same whatever its input was built under, and leaves a time-stamp that it fails to complete as it
was.  The canonicalization that is recorded beside the token is the one that the input was built
under if and only if the input was built under that of the declaration, and from the sources of
the input the recorded canonicalization gives the input again exactly in this case. -/
theorem recorded_canonicalization (ts : TimeStamp) (call : Call (StateM σ)) (w : σ) :
    let result := ((perform ts call).run w).1
    (∀ c, perform ts (call.under c) = perform ts call) ∧
      (∀ e, result.1 = .error e → result.2 = ts) ∧
      ∀ t, result.1 = .ok t →
        result.2.isResolved ∧ result.2.canonicalization = ts.canonicalization ∧
        ∀ input, call.input? = some input →
          (result.2.canonicalization = input.canonicalization ↔
            input.canonicalization = ts.canonicalization) ∧
          ∀ (engine : XmlEngine Node Reference) (sources : TimeStampSources Node Reference)
              (c : Algorithm), sources.digestInput engine c = .ok input →
            (sources.digestInput engine result.2.canonicalization = .ok input ↔
              c = ts.canonicalization) := by
  intro result
  obtain ⟨hfailed, hdone⟩ := of_run_perform ts call w
  refine ⟨perform_under ts call, hfailed, fun t ht => ?_⟩
  obtain ⟨hresolved, hdeclaration⟩ := hdone t ht
  have hrecorded : result.2.canonicalization = ts.canonicalization :=
    congrArg TimeStampDeclaration.canonicalization hdeclaration
  refine ⟨hresolved, hrecorded, fun input _ => ⟨?_, fun engine sources c hinput => ?_⟩⟩
  · rw [hrecorded]
    exact eq_comm
  · rw [hrecorded]
    constructor
    · intro hagain
      -- an input tells what it was built under, so it cannot be built under two
      rw [← TimeStampSources.canonicalization_of_digestInput hinput,
        TimeStampSources.canonicalization_of_digestInput hagain]
    · rintro rfl
      exact hinput

/-- An input that is built under the canonicalization of the declaration is given again by the one
that is recorded. -/
theorem recorded_canonicalization_of_stamp :
    let d : TimeStampDeclaration := ⟨.signature, exclusiveWithPrefixes⟩
    let sources : TimeStampSources UInt8 (ReferenceContent UInt8) := .signature 7
    let input : DigestInput := ⟨exclusiveWithPrefixes, [1, 7]⟩
    let resolved := ((perform d.pending (.stamp echo input)).run 0).1.2
    sources.digestInput counting exclusiveWithPrefixes = .ok input ∧ resolved.isResolved ∧
      resolved.canonicalization = input.canonicalization ∧
        sources.digestInput counting resolved.canonicalization = .ok input := by
  intro d sources input resolved
  obtain ⟨-, -, hdone⟩ := recorded_canonicalization d.pending (.stamp echo input) 0
  obtain ⟨hresolved, -, hgiven⟩ := hdone (some echoTime) rfl
  obtain ⟨hsame, hagain⟩ := hgiven input rfl
  exact ⟨rfl, hresolved, hsame.mpr rfl, (hagain counting sources _ rfl).mpr rfl⟩

/-- A token over an input that was built under another canonicalization is recorded, and is rejected
over the input that the recorded canonicalization gives. -/
theorem stamp_of_other_canonicalization :
    let d : TimeStampDeclaration := ⟨.signature, exclusiveWithPrefixes⟩
    let sources : TimeStampSources UInt8 (ReferenceContent UInt8) := .signature 7
    let other : Algorithm := ⟨Algorithm.c14n, []⟩
    let input : DigestInput := ⟨other, [0, 7]⟩
    let again : DigestInput := ⟨exclusiveWithPrefixes, [1, 7]⟩
    let r : Resolution := ⟨[0, 0, 7], echoTime, ⟨[⟨[]⟩], [], List.cons_ne_nil _ _⟩⟩
    sources.digestInput counting other = .ok input ∧
      (echo.stamp d.pending input).run 0 = ((.ok echoTime, d.completed r), 3) ∧
      (d.completed r).canonicalization ≠ input.canonicalization ∧
      sources.digestInput counting (d.completed r).canonicalization = .ok again ∧
      (echo.verify d.pending r.token again).run 0 =
        ((.error (.timeStampTokenVerification "imprint mismatch"), d.pending), 1) := by
  refine ⟨rfl, rfl, fun h => ?_, rfl, rfl⟩
  cases congrArg Algorithm.params h

end TimeStamp.Call

end AdvancedSignature
