import AdvancedSignature.Proofs.TimeStamp.Composition

/-!
# Digest inputs in spite of failures

The call that adds a source asks the engine once or twice, and each answer may be a failure.  The
input is changed in place, and whoever fills it may go on after a call that has failed.  What is
there in the end is what the other calls have contributed.

* `DigestInput.Answers` says what comes of a source: its octets, or the cause for which it has none.
  By this the call returns (`DigestInput.outcome`) and the input grows
  (`DigestInput.contributed`), which is the step: `DigestInput.Answers.run_perform`.
* `DigestInput.addEach` makes calls one after the other, whatever comes of each, and
  `DigestInput.run_addEach` says what they return and leave behind.
* `DigestInput.addEach_accumulates` is the whole of it for an input that starts empty.
-/

namespace AdvancedSignature.DigestInput

variable {Node Reference : Type} {c : Algorithm}

/-! ## One call -/

/-- A call that adds a source.  The engine is the one that answers this call, and the next call may
get other answers. -/
structure Addition (Node Reference : Type) where
  engine : XmlEngine Node Reference
  source : DigestSource Node Reference

/-- Adds the source. -/
def Addition.perform (call : Addition Node Reference) : InPlace Unit :=
  addInPlace call.engine call.source

/-- What the engine makes of the source of a call under the canonicalization. -/
inductive Answers (c : Algorithm) (call : Addition Node Reference) : Except String Bytes → Prop
  | octets {octets : Bytes} (hyields : call.engine.Yields c call.source octets) :
      Answers c call (.ok octets)
  | cause {cause : String} (hwithholds : call.engine.Withholds c call.source cause) :
      Answers c call (.error cause)

/-- What a call returns, by what the engine has made of its source. -/
def outcome : Except String Bytes → Except Error Unit
  | .ok _ => .ok ()
  | .error cause => .error (.digestInputConstructionFailed cause)

/-- The octets there are among the answers, with nothing in between. -/
def contributed (answers : List (Except String Bytes)) : Bytes :=
  (answers.filterMap Except.toOption).flatten

theorem contributed_cons (answer : Except String Bytes) (answers : List (Except String Bytes)) :
    contributed (answer :: answers) = contributed [answer] ++ contributed answers := by
  cases answer with
  | ok octets => simp [contributed, Except.toOption]
  | error cause => simp [contributed, List.filterMap_cons, Except.toOption]

/-! ### In place -/

theorem run_answered_bind {α β : Type} (answer : Except String α) (work : α → InPlace β)
    (input : DigestInput) :
    (answered answer >>= work).run.run input =
      match answer with
      | .ok a => (work a).run.run input
      | .error cause => (.error (.digestInputConstructionFailed cause), input) := by
  cases answer <;> rfl

theorem run_get_bind {β : Type} (work : DigestInput → InPlace β) (input : DigestInput) :
    ((get : InPlace DigestInput) >>= work).run.run input = (work input).run.run input :=
  rfl

/-- Work in place gives the next input, or leaves the one that is there. -/
theorem run_addInPlace (engine : XmlEngine Node Reference) (source : DigestSource Node Reference)
    (input : DigestInput) :
    (addInPlace engine source).run.run input =
      match add engine input source with
      | .ok next => (.ok (), next)
      | .error e => (.error e, input) := by
  unfold add addInPlace XmlEngine.octets
  cases source with
  | node n =>
    simp only [addNode, run_get_bind, run_answered_bind]
    cases engine.canonicalize [n] input.canonicalization <;> rfl
  | reference r =>
    simp only [addReference, run_answered_bind]
    -- The second question is asked only where the first was answered by nodes.
    cases engine.content r with
    | error cause => rfl
    | ok content =>
      cases content with
      | octets bytes => rfl
      | nodes nodes =>
        simp only [run_get_bind, run_answered_bind, ok_bind]
        cases engine.canonicalize nodes input.canonicalization <;> rfl

theorem exists_answers (c : Algorithm) (call : Addition Node Reference) :
    ∃ answer, Answers c call answer := by
  cases hoctets : call.engine.octets c call.source with
  | ok octets => exact ⟨_, .octets (XmlEngine.octets_eq_ok_iff.1 hoctets)⟩
  | error cause => exact ⟨_, .cause (XmlEngine.octets_eq_error_iff.1 hoctets)⟩

/-- A call returns by what the engine has made of its source, and the input grows by that. -/
theorem Answers.run_perform {call : Addition Node Reference} {input : DigestInput}
    {answer : Except String Bytes} (hanswer : Answers input.canonicalization call answer) :
    call.perform.run.run input =
      (outcome answer, { input with bytes := input.bytes ++ contributed [answer] }) := by
  unfold Addition.perform
  rw [run_addInPlace]
  cases hanswer with
  | octets hyields =>
    rw [add_eq_ok_iff.2 ⟨_, hyields, rfl⟩]
    simp [outcome, contributed, Except.toOption]
  | cause hwithholds =>
    rw [add_eq_error_iff.2 ⟨_, hwithholds, rfl⟩]
    simp [outcome, contributed, List.filterMap_cons, Except.toOption]

/-- A call that fails changes nothing, however far it has come. -/
theorem run_perform_eq_error_iff {call : Addition Node Reference} {input left : DigestInput}
    {e : Error} :
    call.perform.run.run input = (.error e, left) ↔
      left = input ∧ ∃ cause, call.engine.Withholds input.canonicalization call.source cause ∧
        e = .digestInputConstructionFailed cause := by
  unfold Addition.perform
  rw [run_addInPlace, ← add_eq_error_iff]
  cases hadd : add call.engine input call.source with
  | ok next => exact ⟨nofun, fun ⟨_, h⟩ => nomatch h⟩
  | error e' =>
    constructor
    · rintro ⟨⟩
      exact ⟨rfl, rfl⟩
    · rintro ⟨rfl, ⟨⟩⟩
      rfl

/-! ## Calls in a row -/

/-- Makes the calls one after the other, whatever comes of each.  Noted is what each has returned
and which bytes are there then. -/
def addEach (calls : List (Addition Node Reference)) :
    StateM DigestInput (List (Except Error Unit × Bytes)) :=
  calls.mapM fun call => do
    let result ← call.perform.run
    return (result, (← get).bytes)

theorem run_addEach_nil (input : DigestInput) :
    (addEach ([] : List (Addition Node Reference))).run input = ([], input) := rfl

theorem run_addEach_cons (call : Addition Node Reference) (calls : List (Addition Node Reference))
    (input : DigestInput) :
    (addEach (call :: calls)).run input =
      let (result, next) := call.perform.run.run input
      let (noted, last) := (addEach calls).run next
      ((result, next.bytes) :: noted, last) := by
  unfold addEach
  rw [List.mapM_cons]
  rfl

/-- By what the engine has made of the sources, each call is answered and the input grows. -/
theorem run_addEach {calls : List (Addition Node Reference)} {input : DigestInput}
    {answers : List (Except String Bytes)}
    (hanswers : List.Forall₂ (Answers input.canonicalization) calls answers) :
    ∃ noted, (addEach calls).run input =
        (noted, { input with bytes := input.bytes ++ contributed answers }) ∧
      ∀ i : Nat, noted[i]? = answers[i]?.map fun answer =>
        (outcome answer, input.bytes ++ contributed (answers.take (i + 1))) := by
  -- What the calls so far have contributed is in the input that the others are made on.
  induction calls generalizing input answers with
  | nil =>
    cases hanswers
    exact ⟨[], by simp [run_addEach_nil, contributed], by simp⟩
  | cons call calls ih =>
    cases hanswers with
    | @cons _ answer _ rest hanswer hrest =>
      obtain ⟨noted, hrun, hnoted⟩ :=
        @ih { input with bytes := input.bytes ++ contributed [answer] } rest hrest
      refine ⟨(outcome answer, input.bytes ++ contributed [answer]) :: noted, ?_, fun i => ?_⟩
      · rw [run_addEach_cons, hanswer.run_perform, contributed_cons answer rest,
          ← List.append_assoc]
        simp only [hrun]
      · cases i with
        | zero => simp
        | succ i =>
          simp only [List.getElem?_cons_succ, hnoted, List.take_succ_cons,
            contributed_cons answer (rest.take (i + 1)), List.append_assoc]

/-- **A digest input is what the successful calls have added to it, in their order.**  Sources are
added to an empty input one after the other, and whoever does so goes on after a failure.  Each call
has an answer of the engine: the octets of its source, or why there are none.  By that answer the
call returns, and the bytes are at each point those that the answers have contributed until then.
What is taken out in the end are the bytes that are there.  A call fails alike on every input: it
leaves the input as it was, also where a reference was followed and its nodes have no canonical
form, and the error has the engine's words. -/
theorem addEach_accumulates (c : Algorithm) (calls : List (Addition Node Reference)) :
    (∃ answers noted input, List.Forall₂ (Answers c) calls answers ∧
      (addEach calls).run { canonicalization := c } = (noted, input) ∧
      (∀ i : Nat, noted[i]? = answers[i]?.map fun answer =>
        (outcome answer, contributed (answers.take (i + 1)))) ∧
      input.bytes = contributed answers ∧ input.intoBytes = input.bytes) ∧
    ∀ (call : Addition Node Reference) (input left : DigestInput) (e : Error),
      call.perform.run.run input = (.error e, left) ↔
        left = input ∧ ∃ cause, call.engine.Withholds input.canonicalization call.source cause ∧
          e = .digestInputConstructionFailed cause := by
  refine ⟨?_, fun call input left e => run_perform_eq_error_iff⟩
  obtain ⟨answers, hanswers⟩ : ∃ answers, List.Forall₂ (Answers c) calls answers :=
    exists_forall₂_iff.2 fun call _ => exists_answers c call
  obtain ⟨noted, hrun, hnoted⟩ := @run_addEach _ _ calls { canonicalization := c } _ hanswers
  exact ⟨answers, noted, _, hanswers, hrun, hnoted, rfl, rfl⟩

/-- The reference `b` is followed and its nodes have no canonical form, and `c` cannot be followed.
The others are there. -/
example :
    let engine : XmlEngine String String :=
      { content := fun r =>
          if r = "a" then .ok (.octets [1])
          else if r = "b" then .ok (.nodes ["x", "y"])
          else .error s!"no {r}"
        canonicalize := fun nodes _ =>
          if nodes = ["x", "y"] then .error "cut off" else .ok [2, 3] }
    (addEach [⟨engine, .reference "a"⟩, ⟨engine, .reference "b"⟩, ⟨engine, .reference "c"⟩,
      ⟨engine, .node "d"⟩]).run { canonicalization := ⟨Algorithm.c14n, []⟩ } =
      ([(.ok (), [1]), (.error (.digestInputConstructionFailed "cut off"), [1]),
        (.error (.digestInputConstructionFailed "no c"), [1]), (.ok (), [1, 2, 3])],
        ⟨⟨Algorithm.c14n, []⟩, [1, 2, 3]⟩) :=
  rfl

end AdvancedSignature.DigestInput
