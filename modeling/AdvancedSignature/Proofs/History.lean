import AdvancedSignature.Proofs.Outcome

/-!
# Operations in a row

What comes of operations on a state when each of them may be refused.  One that is refused changes
nothing, and those behind it are carried out nevertheless.

* `history` lists the answers, each with the state that it leaves behind, and `reached` is the
  state in the end.
* `getElem?_history`: what an operation answers depends on the state that those before it have
  reached.
* `history_keeps`: what every operation keeps holds all along.
* `history_refines`: a state that follows another one operation by operation does so over all of
  them.
-/

namespace AdvancedSignature

variable {σ τ γ : Type}

/-- What comes of calls one after the other: the answer of each, and what it leaves behind.  A
call that is refused changes nothing. -/
def history (call : σ → γ → Except Error σ) (s : σ) : List γ → List (Except Error Unit × σ)
  | [] => []
  | c :: rest =>
      match call s c with
      | .ok s' => (.ok (), s') :: history call s' rest
      | .error e => (.error e, s) :: history call s rest

/-- The state after calls, of which some may have been refused. -/
def reached (call : σ → γ → Except Error σ) (s : σ) (calls : List γ) : σ :=
  calls.foldl (fun s c => (call s c).toOption.getD s) s

variable {call : σ → γ → Except Error σ} {call' : τ → γ → Except Error τ} {view : σ → τ}
  {inv : σ → Prop}

theorem reached_append_singleton (s : σ) (calls : List γ) (c : γ) :
    reached call s (calls ++ [c]) =
      (call (reached call s calls) c).toOption.getD (reached call s calls) := by
  simp only [reached, List.foldl_append, List.foldl_cons, List.foldl_nil]

/-- Each call is answered in the state that those before it have reached. -/
theorem getElem?_history (s : σ) (calls : List γ) (i : Nat) :
    (history call s calls)[i]? = calls[i]?.map fun c =>
      ((call (reached call s (calls.take i)) c).map fun _ => (),
        reached call s (calls.take (i + 1))) := by
  induction calls generalizing s i with
  | nil => rfl
  | cons c rest ih =>
    unfold history
    cases hcall : call s c with
    | ok s' => cases i <;> simp [ih, reached, hcall, Except.map, Except.toOption]
    | error e => cases i <;> simp [ih, reached, hcall, Except.map, Except.toOption]

/-- What every call keeps holds all along. -/
theorem history_keeps (allowed : γ → Prop)
    (hkeep : ∀ s c s', inv s → allowed c → call s c = .ok s' → inv s') {s : σ} (hs : inv s)
    {calls : List γ} (hcalls : ∀ c ∈ calls, allowed c) : ∀ r ∈ history call s calls, inv r.2 := by
  induction calls generalizing s with
  | nil => simp [history]
  | cons c rest ih =>
    obtain ⟨hc, hrest⟩ := List.forall_mem_cons.1 hcalls
    unfold history
    cases hcall : call s c with
    | ok s' =>
      have hs' := hkeep s c s' hs hc hcall
      exact List.forall_mem_cons.2 ⟨hs', ih hs' hrest⟩
    | error e => exact List.forall_mem_cons.2 ⟨hs, ih hs hrest⟩

/-- A container that answers each call as its view does has the history of its view. -/
theorem history_refines (hview : ∀ s c, inv s → (call s c).map view = call' (view s) c)
    (hkeep : ∀ s c s', inv s → call s c = .ok s' → inv s') {s : σ} (hs : inv s)
    (calls : List γ) :
    (history call s calls).map (Prod.map id view) = history call' (view s) calls := by
  induction calls generalizing s with
  | nil => rfl
  | cons c rest ih =>
    have hc := hview s c hs
    unfold history
    cases hcall : call s c with
    | ok s' =>
      rw [hcall] at hc
      rw [← hc, List.map_cons, ih (hkeep s c s' hs hcall)]
      rfl
    | error e =>
      rw [hcall] at hc
      rw [← hc, List.map_cons, ih hs]
      rfl

end AdvancedSignature
