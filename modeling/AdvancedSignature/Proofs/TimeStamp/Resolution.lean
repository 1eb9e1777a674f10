import AdvancedSignature.TimeStamp.Stamping

/-!
# The resolution of time-stamps

A time-stamp is completed by a caller who brings a token along, or by a profile, which has a token
issued or verifies one that was found.  However often and in whatever order this is tried, the first
success completes it for good.

The providers are computations over a world `σ` of which nothing is known, so what they answer may
depend on everything that they were asked before.

* `Profile.Verifies` says what comes of verifying a token, and `TimeStamp.Call.Attempt` what comes
  of a call on a pending time-stamp.
* `TimeStamp.Call.Fail` puts calls together that all fail.
* `TimeStamp.Call.run_completed`: no provider is asked about a time-stamp that is complete.
* `TimeStamp.Call.run_completes_once` describes all sequences of calls.
-/

namespace AdvancedSignature

namespace TimeStampDeclaration

/-- The time-stamp that is to be completed yet. -/
def pending (d : TimeStampDeclaration) : TimeStamp := ⟨d, none⟩

/-- The time-stamp, complete. -/
def completed (d : TimeStampDeclaration) (r : Resolution) : TimeStamp := ⟨d, some r⟩

/-- The time-stamp after an attempt to complete it.  An error leaves it pending. -/
def after (d : TimeStampDeclaration) : Except Error Resolution → TimeStamp
  | .error _ => d.pending
  | .ok r => d.completed r

end TimeStampDeclaration

/-! ## Calls -/

namespace TimeStamp

/-- What may be called to complete a time-stamp. -/
inductive Call (m : Type → Type) where
  /-- The caller brings the token and what is known about it. -/
  | resolve (token : Bytes) (data : TimeStampVerificationData)
  /-- The profile has a token issued. -/
  | stamp (profile : Profile m) (input : DigestInput)
  /-- The profile verifies a token. -/
  | verify (profile : Profile m) (token : Bytes) (input : DigestInput)

namespace Call

/-- What a call answers, and the time-stamp as it is left. -/
abbrev Result := Except Error (Option DateTime) × TimeStamp

variable {m : Type → Type} [Monad m]

/-- Calls on a time-stamp.  The time of the token is the answer of those that had to ask for it. -/
def perform (ts : TimeStamp) : Call m → m Result
  | .resolve token data =>
      match ts.resolve token data with
      | .ok resolved => return (.ok none, resolved)
      | .error e => return (.error e, ts)
  | .stamp p input => do
      let (answer, ts) ← p.stamp ts input
      return (answer.map some, ts)
  | .verify p token input => do
      let (answer, ts) ← p.verify ts token input
      return (answer.map some, ts)

/-- Calls one after the other on a time-stamp. -/
def run (ts : TimeStamp) : List (Call m) → m (List Result)
  | [] => return []
  | call :: rest => do
      let result ← perform ts call
      let later ← run result.2 rest
      return result :: later

/-- The refusal of a call on a time-stamp that is complete. -/
def refusal (d : TimeStampDeclaration) (r : Resolution) : Result :=
  (.error (.timeStampAlreadyResolved d.kind.kind), d.completed r)

theorem perform_completed [LawfulMonad m] (d : TimeStampDeclaration) (r : Resolution)
    (call : Call m) : perform (d.completed r) call = pure (refusal d r) := by
  cases call with
  | resolve token data => rfl
  | stamp p input => exact pure_bind _ _
  | verify p token input => exact pure_bind _ _

/-- **A complete time-stamp stays as it is, and no provider is asked about it.** -/
theorem run_completed [LawfulMonad m] (d : TimeStampDeclaration) (r : Resolution)
    (calls : List (Call m)) :
    run (d.completed r) calls = pure (calls.map fun _ => refusal d r) := by
  induction calls with
  | nil => rfl
  | cons call rest ih =>
    rw [run, perform_completed, pure_bind, refusal, ih, pure_bind]
    rfl

end Call

end TimeStamp

/-! ## Attempts -/

variable {σ : Type}

/-- What follows a computation starts in the world that it leads to. -/
theorem run_bind_of_eq {α β : Type} {x : StateM σ α} {f : α → StateM σ β} {a : α} {w w₁ : σ}
    (h : x.run w = (a, w₁)) : (x >>= f).run w = (f a).run w₁ := by
  rw [StateT.run_bind, h]
  rfl

/-- What comes of verifying a token over the bytes: an error, or what completes a time-stamp. -/
inductive Profile.Verifies (p : Profile (StateM σ)) (token bytes : Bytes) (w : σ) :
    Except Error Resolution → σ → Prop
  /-- There is no verifier. -/
  | unequipped (hnone : p.timeStampVerification? = none) :
      Verifies p token bytes w (.error (.missingProvider "time-stamp verification")) w
  /-- The verifier rejects the token over these bytes. -/
  | rejected {verifier : TimeStampVerificationProvider (StateM σ)} {e : Error} {w₁ : σ}
      (hsome : p.timeStampVerification? = some verifier)
      (htoken : (verifier.verifyToken token bytes).run w = (.error e, w₁)) :
      Verifies p token bytes w (.error e) w₁
  /-- The verifier has no validation data for the token that it accepted. -/
  | unproven {verifier : TimeStampVerificationProvider (StateM σ)} {time : DateTime} {e : Error}
      {w₁ w₂ : σ} (hsome : p.timeStampVerification? = some verifier)
      (htoken : (verifier.verifyToken token bytes).run w = (.ok time, w₁))
      (hdata : (verifier.tokenValidationData token time).run w₁ = (.error e, w₂)) :
      Verifies p token bytes w (.error e) w₂
  /-- The verifier accepts the token over these bytes and has its validation data. -/
  | accepted {verifier : TimeStampVerificationProvider (StateM σ)} {time : DateTime}
      {data : ValidationData} {w₁ w₂ : σ} (hsome : p.timeStampVerification? = some verifier)
      (htoken : (verifier.verifyToken token bytes).run w = (.ok time, w₁))
      (hdata : (verifier.tokenValidationData token time).run w₁ = (.ok data, w₂)) :
      Verifies p token bytes w (.ok ⟨token, time, data⟩) w₂

namespace TimeStamp.Call

/-- What comes of a call on a pending time-stamp: an error, or what completes it. -/
inductive Attempt : Call (StateM σ) → σ → Except Error Resolution → σ → Prop
  /-- What the caller brings is taken as it is. -/
  | resolve {token : Bytes} {data : TimeStampVerificationData} {w : σ} :
      Attempt (.resolve token data) w (.ok ⟨token, data.time, data.validationData⟩) w
  /-- A token that was found is verified over the input. -/
  | verify {p : Profile (StateM σ)} {token : Bytes} {input : DigestInput}
      {r : Except Error Resolution} {w w₁ : σ}
      (hverifies : p.Verifies token input.bytes w r w₁) :
      Attempt (.verify p token input) w r w₁
  /-- There is no authority. -/
  | unequipped {p : Profile (StateM σ)} {input : DigestInput} {w : σ}
      (hnone : p.timeStampTokens? = none) :
      Attempt (.stamp p input) w (.error (.missingProvider "time-stamp token")) w
  /-- The authority issues no token over the input. -/
  | unissued {p : Profile (StateM σ)} {input : DigestInput}
      {authority : TimeStampTokenProvider (StateM σ)} {e : Error} {w w₁ : σ}
      (hsome : p.timeStampTokens? = some authority)
      (htoken : (authority.getToken input.bytes p.algorithms.digestForTimeStamps).run w =
        (.error e, w₁)) :
      Attempt (.stamp p input) w (.error e) w₁
  /-- The token that the authority issues over the input is verified over the input. -/
  | issued {p : Profile (StateM σ)} {input : DigestInput}
      {authority : TimeStampTokenProvider (StateM σ)} {token : TimeStampToken}
      {r : Except Error Resolution} {w w₁ w₂ : σ}
      (hsome : p.timeStampTokens? = some authority)
      (htoken : (authority.getToken input.bytes p.algorithms.digestForTimeStamps).run w =
        (.ok token, w₁))
      (hverifies : p.Verifies token.encoded input.bytes w₁ r w₂) :
      Attempt (.stamp p input) w r w₂

/-- The answer of a call that completed a time-stamp. -/
def answer {m : Type → Type} : Call m → Resolution → Option DateTime
  | .resolve _ _, _ => none
  | .stamp _ _, r => some r.time
  | .verify _ _ _, r => some r.time

end TimeStamp.Call

/-- An end to which verifying a token comes is what becomes of a pending time-stamp. -/
theorem Profile.Verifies.run_accept {p : Profile (StateM σ)} {token bytes : Bytes} {w w' : σ}
    {r : Except Error Resolution} (h : p.Verifies token bytes w r w') (d : TimeStampDeclaration) :
    (p.accept d.pending token bytes).run w = ((r.map Resolution.time, d.after r), w') := by
  unfold accept
  cases h with
  | unequipped hnone =>
    rw [timeStampVerification, hnone]
    rfl
  | rejected hsome htoken =>
    rw [timeStampVerification, hsome]
    exact run_bind_of_eq htoken
  | unproven hsome htoken hdata | accepted hsome htoken hdata =>
    rw [timeStampVerification, hsome]
    exact (run_bind_of_eq htoken).trans (run_bind_of_eq hdata)

/-- Verifying a token comes to one of the ends that are described. -/
theorem Profile.exists_verifies (p : Profile (StateM σ)) (d : TimeStampDeclaration)
    (token bytes : Bytes) (w : σ) :
    ∃ r w', p.Verifies token bytes w r w' ∧
      (p.accept d.pending token bytes).run w = ((r.map Resolution.time, d.after r), w') := by
  suffices h : ∃ r w', p.Verifies token bytes w r w' by
    obtain ⟨r, w', hverifies⟩ := h
    exact ⟨r, w', hverifies, hverifies.run_accept d⟩
  cases hsome : p.timeStampVerification? with
  | none => exact ⟨_, _, .unequipped hsome⟩
  | some verifier =>
    rcases htoken : (verifier.verifyToken token bytes).run w with ⟨e | time, w₁⟩
    · exact ⟨_, _, .rejected hsome htoken⟩
    · rcases hdata : (verifier.tokenValidationData token time).run w₁ with ⟨e | data, w₂⟩
      · exact ⟨_, _, .unproven hsome htoken hdata⟩
      · exact ⟨_, _, .accepted hsome htoken hdata⟩

namespace TimeStamp.Call

/-- Having a token issued comes to one of the ends that are described. -/
theorem exists_attempt_stamp (d : TimeStampDeclaration) (p : Profile (StateM σ))
    (input : DigestInput) (w : σ) :
    ∃ r w', Attempt (.stamp p input) w r w' ∧
      (p.stamp d.pending input).run w = ((r.map Resolution.time, d.after r), w') := by
  have hpending : ¬ d.pending.isResolved = true := Bool.false_ne_true
  rw [Profile.stamp, if_neg hpending, Profile.timeStampTokens]
  cases hsome : p.timeStampTokens? with
  | none => exact ⟨_, _, .unequipped hsome, rfl⟩
  | some authority =>
    rcases htoken : (authority.getToken input.bytes p.algorithms.digestForTimeStamps).run w
      with ⟨e | token, w₁⟩
    · exact ⟨_, _, .unissued hsome htoken, run_bind_of_eq htoken⟩
    · obtain ⟨r, w₂, hverifies, haccept⟩ := p.exists_verifies d token.encoded input.bytes w₁
      exact ⟨r, w₂, .issued hsome htoken hverifies, (run_bind_of_eq htoken).trans haccept⟩

/-- A call on a pending time-stamp comes to one of the ends that are described. -/
theorem exists_attempt (d : TimeStampDeclaration) (call : Call (StateM σ)) (w : σ) :
    ∃ r w', call.Attempt w r w' ∧
      (perform d.pending call).run w = ((r.map call.answer, d.after r), w') := by
  have htime (r : Except Error Resolution) (call : Call (StateM σ))
      (h : ∀ r : Resolution, call.answer r = some r.time) :
      (r.map Resolution.time).map some = r.map call.answer := by
    cases r with
    | error e => rfl
    | ok r => exact congrArg Except.ok (h r).symm
  cases call with
  | resolve token data => exact ⟨_, _, .resolve, rfl⟩
  | stamp p input =>
    obtain ⟨r, w', hattempt, hstamp⟩ := exists_attempt_stamp d p input w
    refine ⟨r, w', hattempt, ?_⟩
    rw [← htime r _ fun _ => rfl]
    exact run_bind_of_eq hstamp
  | verify p token input =>
    obtain ⟨r, w', hverifies, haccept⟩ := p.exists_verifies d token input.bytes w
    refine ⟨r, w', .verify hverifies, ?_⟩
    rw [← htime r _ fun _ => rfl]
    exact run_bind_of_eq haccept

/-- A call fails and leaves the time-stamp as it was, or completes one that was pending. -/
theorem perform_cases (ts : TimeStamp) (call : Call (StateM σ)) (w : σ) :
    (∃ e w', (perform ts call).run w = ((.error e, ts), w')) ∨
      ts.isResolved = false ∧ ∃ answer r w',
        (perform ts call).run w = ((.ok answer, ts.declaration.completed r), w') := by
  obtain ⟨d, _ | r⟩ := ts
  · obtain ⟨r, w', -, hperform⟩ := exists_attempt d call w
    cases r with
    | error e => exact .inl ⟨e, w', hperform⟩
    | ok r => exact .inr ⟨rfl, _, r, w', hperform⟩
  · exact .inl ⟨_, w, congrArg (fun x => x.run w) (perform_completed d r call)⟩

/-! ## Sequences of calls -/

/-- Calls that all fail, one after the other, with these errors. -/
inductive Fail : List (Call (StateM σ)) → σ → List Error → σ → Prop
  | nil {w : σ} : Fail [] w [] w
  | cons {call : Call (StateM σ)} {rest : List (Call (StateM σ))} {e : Error} {es : List Error}
      {w w₁ w₂ : σ} (hcall : call.Attempt w (.error e) w₁) (hrest : Fail rest w₁ es w₂) :
      Fail (call :: rest) w (e :: es) w₂

/-- Of the calls on a pending time-stamp all fail, or one of them completes it after some that fail
and before others that are refused. -/
inductive Course (d : TimeStampDeclaration) (calls : List (Call (StateM σ))) (w : σ) :
    List Result × σ → Prop
  | pending {es : List Error} {w₁ : σ} (hfail : Fail calls w es w₁) :
      Course d calls w (es.map fun e => (.error e, d.pending), w₁)
  | completed {before after : List (Call (StateM σ))} {call : Call (StateM σ)} {es : List Error}
      {r : Resolution} {w₁ w₂ : σ} (hsplit : calls = before ++ call :: after)
      (hfail : Fail before w es w₁) (hattempt : call.Attempt w₁ (.ok r) w₂) :
      Course d calls w
        ((es.map fun e => (.error e, d.pending)) ++
          (.ok (call.answer r), d.completed r) :: after.map fun _ => refusal d r, w₂)

/-- A call that fails comes before the others. -/
theorem Course.cons {d : TimeStampDeclaration} {call : Call (StateM σ)}
    {rest : List (Call (StateM σ))} {e : Error} {w w₁ w₂ : σ} {results : List Result}
    (hcall : call.Attempt w (.error e) w₁) (h : Course d rest w₁ (results, w₂)) :
    Course d (call :: rest) w ((.error e, d.pending) :: results, w₂) := by
  cases h with
  | pending hfail => exact .pending (.cons hcall hfail)
  | completed hsplit hfail hattempt =>
    exact .completed (congrArg (call :: ·) hsplit) (.cons hcall hfail) hattempt

theorem course_run (d : TimeStampDeclaration) (calls : List (Call (StateM σ))) (w : σ) :
    Course d calls w ((run d.pending calls).run w) := by
  induction calls generalizing w with
  | nil => exact .pending .nil
  | cons call rest ih =>
    obtain ⟨r, w₁, hattempt, hperform⟩ := exists_attempt d call w
    rw [run, run_bind_of_eq hperform]
    -- only an error leaves the time-stamp as it was, for another course in the world it leads to
    cases r with
    | error e => exact (ih w₁).cons hattempt
    | ok r =>
      have hlater : run (m := StateM σ) (d.after (.ok r)) rest = _ := run_completed d r rest
      rw [hlater]
      exact .completed (List.nil_append _).symm .nil hattempt

theorem Course.countP_isOk_le {d : TimeStampDeclaration} {calls : List (Call (StateM σ))} {w : σ}
    {finish : List Result × σ} (h : Course d calls w finish) :
    finish.1.countP (fun result => result.1.isOk) ≤ 1 := by
  have hfail (es : List Error) :
      (es.map fun e => ((.error e, d.pending) : Result)).countP (fun result => result.1.isOk) =
        0 := by
    simp [List.countP_map, Function.comp_def, Except.isOk, Except.toBool]
  cases h with
  | pending =>
    rw [hfail]
    exact Nat.zero_le 1
  | completed =>
    rw [List.countP_append, hfail, List.countP_cons, List.countP_map]
    simp [Function.comp_def, refusal, Except.isOk, Except.toBool]

/-- **A time-stamp is completed at most once, by what a caller brought or a verifier accepted.**
All calls before that fail and leave it pending, and all later ones are refused without a provider
being asked. -/
theorem run_completes_once (d : TimeStampDeclaration) (calls : List (Call (StateM σ))) (w : σ) :
    Course d calls w ((run d.pending calls).run w) ∧
      ((run d.pending calls).run w).1.countP (fun result => result.1.isOk) ≤ 1 ∧
        ∀ (m : Type → Type) [Monad m] [LawfulMonad m] (r : Resolution) (later : List (Call m)),
          run (d.completed r) later = pure (later.map fun _ => refusal d r) :=
  ⟨course_run d calls w, (course_run d calls w).countP_isOk_le,
    fun _ _ _ r later => run_completed d r later⟩

/-- When the tokens of `echo` are issued. -/
def echoTime : DateTime := ⟨2024, 7, 14, 9, 30, 0, by decide, by decide, by decide⟩

/-- A profile whose authority issues the input behind a mark as the token, and whose verifier
compares the two.  The world counts how often they are asked. -/
def echo : Profile (StateM Nat) where
  form := .t
  algorithms := .standard
  certificateValidation? := none
  timeStampTokens? := some ⟨fun bytes _ w => (.ok ⟨0 :: bytes, echoTime⟩, w + 1)⟩
  timeStampVerification? := some
    { verifyToken := fun token bytes w =>
        (if token = 0 :: bytes then .ok echoTime
          else .error (.timeStampTokenVerification "imprint mismatch"), w + 1)
      tokenValidationData := fun _ _ w => (.ok ⟨[⟨[]⟩], [], List.cons_ne_nil _ _⟩, w + 1) }

/-- A token over other input is rejected; one over the input is issued, and later calls are refused.
Of the providers the first call asks one, the second three and the third none. -/
theorem run_echo_completes_once :
    let d := echo.declareTimeStamp .signature
    let input : DigestInput := ⟨d.canonicalization, [7]⟩
    let calls : List (Call (StateM Nat)) :=
      [.verify echo [0, 8] input, .stamp echo input, .verify echo [0, 7] input]
    let r : Resolution := ⟨[0, 7], echoTime, ⟨[⟨[]⟩], [], List.cons_ne_nil _ _⟩⟩
    (run d.pending calls).run 0 =
        ([(.error (.timeStampTokenVerification "imprint mismatch"), d.pending),
          (.ok (some echoTime), d.completed r), refusal d r], 4) ∧
      Course d calls 0 ((run d.pending calls).run 0) ∧
        (run (d.completed r) calls).run 4 = (calls.map fun _ => refusal d r, 4) := by
  intro d input calls r
  obtain ⟨hcourse, -, hlater⟩ := run_completes_once d calls 0
  exact ⟨rfl, hcourse, congrArg (fun x => x.run 4) (hlater (StateM Nat) r calls)⟩

end TimeStamp.Call

end AdvancedSignature
