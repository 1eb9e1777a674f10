import AdvancedSignature.Proofs.Interleaving.Assembly
import AdvancedSignature.Proofs.Layout.Numbering

/-!
# Operations in one process

Operations that go on in one process have the counter in common that numbers the data objects.
Each names the data objects and the collections that it made itself, and a list of steps says in
which order they take their turns.  An operation that chooses the reference identifiers of its data
objects does not notice the others, nor where the counter stands (`Process.independent`).

* `Process.Isolates`: the invariant, that what an operation has made is apart from the rest.
* `Isolates.view_perform_of_ne`: a step of another operation changes nothing that the operation
  sees.
* `Isolates.perform_view`: a step of the operation is a step on what it sees.

Numbers are natural numbers here.  A counter of 64 bits that starts at 1 gives the same numbers
while fewer than `2 ^ 64` are given out; for the structure check, which may meet a counter that
runs over, see `PropertyLayout.checkUnder_drawn`.
-/

namespace AdvancedSignature

/-- What the operations of a process declare, and what each of them has made. -/
structure Process (ι : Type) where
  declarations : Declarations := {}
  holdings : ι → Holdings := fun _ => {}

namespace Process

variable {ι : Type}

/-- A process in which nothing has been declared, with the counter at a number. -/
def start (first : Nat) : Process ι := { declarations := { nextDataObject := first } }

/-- One operation does something with what it has made. -/
def perform [DecidableEq ι] (x : Process ι) (i : ι) (a : Action) : Outcome × Process ι :=
  match (x.holdings i).resolve a with
  | none => (.unknown, x)
  | some b =>
      ((x.declarations.perform b).1,
        { declarations := (x.declarations.perform b).2
          holdings :=
            Function.update x.holdings i ((x.holdings i).after x.declarations b) })

/-- The process after a list of steps. -/
def run [DecidableEq ι] (x : Process ι) (steps : List (ι × Action)) : Process ι :=
  steps.foldl (fun x step => (x.perform step.1 step.2).2) x

/-- The outcomes of a list of steps, each with the operation whose step it was. -/
def outcomes [DecidableEq ι] (x : Process ι) : List (ι × Action) → List (ι × Outcome)
  | [] => []
  | (i, a) :: rest => (i, (x.perform i a).1) :: (x.perform i a).2.outcomes rest

/-- What one operation sees. -/
def view (x : Process ι) (i : ι) : Declarations := x.declarations.seenBy (x.holdings i)

/-- One operation assembles a signature over one of its collections and looks at it as a layout. -/
def produce (x : Process ι) (i : ι) (collection : Nat) (collector : Collector) (id : InstanceId)
    (certificate : SigningCertificate) (policy : Option SignaturePolicy) :
    Option (Except Error (QualifyingProperties × PropertyLayout)) := do
  let position ← (x.holdings i).collections[collection]?
  let c ← x.declarations.collections[position]?
  return x.declarations.produce c collector id certificate policy

variable {x y : Process ι} {i j : ι} {own : DataObjectProperty → Prop} {a : Action}

/-! ## Isolation -/

/-- What the operation has made is apart from what the others have made. -/
structure Isolates (x : Process ι) (i : ι) (own : DataObjectProperty → Prop) : Prop where
  separates : x.declarations.Separates (x.holdings i) own
  given : ∀ j ≠ i, (x.holdings j).IsGiven x.declarations
  apart : ∀ j ≠ i, (x.holdings j).IsApart (x.holdings i)

theorem isolates_start {first : Nat} (hfirst : 1 ≤ first) (i : ι)
    (own : DataObjectProperty → Prop) : (start first : Process ι).Isolates i own where
  separates :=
    { allocated := nofun
      opened := nofun
      consistent := Declarations.isConsistent_start first
      started := hfirst
      objects := List.nodup_nil
      collections := List.nodup_nil
      inside := nofun
      targetsAllocated := by simp [Declarations.TargetsAllocated, start]
      targets := nofun }
  given _ _ := ⟨nofun, nofun⟩
  apart _ _ := ⟨nofun, nofun⟩

/-- What the operation assembles is told by what it sees. -/
theorem Isolates.produce_eq (hx : x.Isolates i own) (collection : Nat) (collector : Collector)
    (id : InstanceId) (certificate : SigningCertificate) (policy : Option SignaturePolicy) :
    (x.produce i collection collector id certificate policy).map (Except.mapError Error.cause) =
      (x.view i).collections[collection]?.map fun c =>
        ((x.view i).produce c collector id certificate policy).mapError Error.cause := by
  unfold Process.produce
  cases hposition : (x.holdings i).collections[collection]? with
  | none => simp [view, Declarations.seenBy, hposition]
  | some position =>
    obtain ⟨c, hc, hseen⟩ := hx.separates.getElem?_collections_seenBy hposition
    have hproduce := hx.separates.produce_seenBy (List.mem_of_getElem? hposition) hc collector id
      certificate policy
    rw [view, hseen, Option.map_some, hproduce]
    simp [hc]

/-! ## One step -/

variable [DecidableEq ι]

/-- To check a layout has the outcome that it has always, and changes nothing that is seen. -/
theorem perform_checkLayout (x : Process ι) (i : ι) (l : PropertyLayout) :
    (x.perform i (.checkLayout l)).1 = .ofExcept l.check ∧
      (x.perform i (.checkLayout l)).2.view i = x.view i := by
  have hresolve : (x.holdings i).resolve (.checkLayout l) = some (.checkLayout l) := rfl
  simp only [perform, hresolve]
  constructor
  · simp only [Declarations.perform, PropertyLayout.check, PropertyLayout.checkFrom_eq]
  · simp only [view, Function.update_self]
    rfl

namespace Isolates

/-- A step of another operation changes nothing that the operation sees. -/
theorem view_perform_of_ne (hx : x.Isolates i own) (hj : j ≠ i)
    (hown : ∀ p, a.property? = some p → ¬ own p) :
    (x.perform j a).2.Isolates i own ∧ (x.perform j a).2.view i = x.view i := by
  unfold Process.perform
  cases hb : (x.holdings j).resolve a with
  | none => exact ⟨hx, rfl⟩
  | some b =>
    obtain ⟨hobject, hcollection, hproperty⟩ := Holdings.of_resolve hb
    have hapart := hx.apart j hj
    have hforeign : b.KeepsTo (x.holdings i) own False :=
      { object := fun id hid => iff_false_intro fun hmem => hapart.objects (hobject id hid) hmem
        collection := fun k hk =>
          iff_false_intro fun hmem => hapart.collections (hcollection k hk) hmem
        property := fun p hp => iff_false_intro (hown p (hproperty ▸ hp)) }
    have hconsistent := hx.separates.consistent
    have hstarted := hx.separates.started
    refine ⟨⟨?_, fun k hk => ?_, fun k hk => ?_⟩, ?_⟩
    · simpa only [Function.update_of_ne hj.symm] using hx.separates.perform hforeign
    · rcases eq_or_ne k j with rfl | hkj
      · simpa only [Function.update_self] using (hx.given k hk).after hconsistent hstarted b
      · simpa only [Function.update_of_ne hkj] using (hx.given k hk).perform hconsistent b
    · rcases eq_or_ne k j with rfl | hkj
      · simpa only [Function.update_self, Function.update_of_ne hj.symm] using
          hapart.after hx.separates.toIsGiven b
      · simpa only [Function.update_of_ne hkj, Function.update_of_ne hj.symm] using hx.apart k hk
    · simpa only [view, Function.update_of_ne hj.symm] using
        hx.separates.seenBy_perform_of_foreign hforeign

/-- A step of the operation leaves what it has made apart from the rest. -/
theorem perform (hx : x.Isolates i own) (hown : ∀ p, a.property? = some p → own p) :
    (x.perform i a).2.Isolates i own := by
  unfold Process.perform
  cases hb : (x.holdings i).resolve a with
  | none => exact hx
  | some b =>
    obtain ⟨hobject, hcollection, hproperty⟩ := Holdings.of_resolve hb
    have hkeeps : b.KeepsTo (x.holdings i) own True :=
      { object := fun id hid => iff_true_intro (hobject id hid)
        collection := fun k hk => iff_true_intro (hcollection k hk)
        property := fun p hp => iff_true_intro (hown p (hproperty ▸ hp)) }
    refine ⟨?_, fun k hk => ?_, fun k hk => ?_⟩
    · simpa only [Function.update_self] using hx.separates.perform_after hkeeps
    · simpa only [Function.update_of_ne hk] using
        (hx.given k hk).perform hx.separates.consistent b
    · simpa only [Function.update_of_ne hk, Function.update_self] using
        ((hx.apart k hk).symm.after (hx.given k hk) b).symm

/-- A step of the operation is a step on what it sees. -/
theorem perform_view (hx : x.Isolates i own) (hown : ∀ p, a.property? = some p → own p)
    (hdescribe : ∀ uri, a ≠ .describe uri) (hcheck : ∀ l, a ≠ .checkLayout l) :
    (x.view i).perform a = ((x.perform i a).1, (x.perform i a).2.view i) := by
  unfold Process.perform
  cases hb : (x.holdings i).resolve a with
  | none => exact hx.separates.perform_seenBy_of_resolve_eq_none hb
  | some b =>
    simpa only [view, Function.update_self] using
      hx.separates.perform_seenBy hb hown hdescribe hcheck

/-- Where the operation sees the same, a step of it comes to the same. -/
theorem perform_congr (hx : x.Isolates i own) (hy : y.Isolates i own)
    (hview : x.view i = y.view i) (hown : ∀ p, a.property? = some p → own p)
    (hdescribe : ∀ uri, a ≠ .describe uri) :
    (x.perform i a).1 = (y.perform i a).1 ∧
      (x.perform i a).2.view i = (y.perform i a).2.view i := by
  by_cases hcheck : ∃ l, a = .checkLayout l
  · obtain ⟨l, rfl⟩ := hcheck
    obtain ⟨houtcome, hafter⟩ := x.perform_checkLayout i l
    obtain ⟨houtcome', hafter'⟩ := y.perform_checkLayout i l
    exact ⟨houtcome.trans houtcome'.symm, hafter.trans (hview.trans hafter'.symm)⟩
  · have hcheck : ∀ l, a ≠ .checkLayout l := fun l hl => hcheck ⟨l, hl⟩
    have hstep := hx.perform_view hown hdescribe hcheck
    rw [hview, hy.perform_view hown hdescribe hcheck, Prod.mk.injEq] at hstep
    exact ⟨hstep.1.symm, hstep.2.symm⟩

end Isolates

/-! ## A run -/

/-- The operation chooses the reference identifiers of its data objects, and no other operation
declares one of its properties. -/
structure IsIndependent (i : ι) (steps : List (ι × Action)) : Prop where
  chosen : ∀ uri, (i, .describe uri) ∉ steps
  apart : ∀ {a}, (i, a) ∈ steps → ∀ {j b}, (j, b) ∈ steps → j ≠ i →
    ∀ p, a.property? = some p → b.property? ≠ some p

/-- Where the operation sees the same, it has the same outcomes with and without the steps of the
others, and sees the same afterwards. -/
theorem Isolates.run (hx : x.Isolates i own) (hy : y.Isolates i own)
    (hview : x.view i = y.view i) {steps : List (ι × Action)}
    (hown : ∀ step ∈ steps, ∀ p, step.2.property? = some p → (own p ↔ step.1 = i))
    (hdescribe : ∀ uri, (i, .describe uri) ∉ steps) :
    (x.outcomes steps).filter (·.1 = i) = y.outcomes (steps.filter (·.1 = i)) ∧
      (x.run steps).Isolates i own ∧ (y.run (steps.filter (·.1 = i))).Isolates i own ∧
        (x.run steps).view i = (y.run (steps.filter (·.1 = i))).view i := by
  induction steps generalizing x y with
  | nil => exact ⟨rfl, hx, hy, hview⟩
  | cons step rest ih =>
    obtain ⟨j, a⟩ := step
    obtain ⟨hstep, hown⟩ := List.forall_mem_cons.1 hown
    have hrest : ∀ uri, (i, .describe uri) ∉ rest := fun uri hmem =>
      hdescribe uri (List.mem_cons_of_mem _ hmem)
    by_cases hj : j = i
    · subst hj
      have hmine : ∀ p, a.property? = some p → own p := fun p hp => (hstep p hp).2 rfl
      have hchosen : ∀ uri, a ≠ .describe uri := by
        rintro uri rfl
        exact hdescribe uri List.mem_cons_self
      obtain ⟨houtcome, hview'⟩ := hx.perform_congr hy hview hmine hchosen
      have ih := ih (hx.perform hmine) (hy.perform hmine) hview' hown hrest
      simpa only [outcomes, Process.run, List.foldl_cons, List.filter_cons_of_pos, decide_true,
        houtcome, List.cons.injEq, true_and] using ih
    · have hothers : ∀ p, a.property? = some p → ¬ own p := fun p hp h => hj ((hstep p hp).1 h)
      obtain ⟨hx', hsame⟩ := hx.view_perform_of_ne hj hothers
      have ih := ih hx' hy (hsame.trans hview) hown hrest
      simpa only [outcomes, Process.run, List.foldl_cons, List.filter_cons_of_neg, hj,
        decide_false, Bool.false_eq_true, not_false_iff] using ih

/-- **Operations that have only the counter in common do not influence each other.**  The check of
a layout comes to the same whatever the counter stands at and whoever else draws from it meanwhile.
An operation has the same outcomes, and assembles the same properties with the same identifiers of
references and targets or fails for the same cause, whether others take steps in between or not. -/
theorem independent {steps : List (ι × Action)} (hsteps : IsIndependent i steps)
    {first first' : Nat} (hfirst : 1 ≤ first) (hfirst' : 1 ≤ first') :
    (∀ (l : PropertyLayout) (counter : Nat) (taken : List Nat),
        taken.length = l.references.length → taken.sum + taken.length ≤ 2 ^ 64 →
        l.checkUnder (.ofList (l.references.zip (DataObjectId.drawn counter taken))) = l.check) ∧
      ((start first).outcomes steps).filter (·.1 = i) =
        (start first').outcomes (steps.filter (·.1 = i)) ∧
      ∀ collection collector id certificate policy,
        (((start first).run steps).produce i collection collector id certificate policy).map
            (Except.mapError Error.cause) =
          (((start first').run (steps.filter (·.1 = i))).produce i collection collector id
            certificate policy).map (Except.mapError Error.cause) := by
  let own (p : DataObjectProperty) : Prop := ∃ a, (i, a) ∈ steps ∧ a.property? = some p
  have hown : ∀ step ∈ steps, ∀ p, step.2.property? = some p → (own p ↔ step.1 = i) := by
    rintro ⟨j, b⟩ hstep p hp
    constructor
    · rintro ⟨a, ha, hp'⟩
      by_contra hne
      exact hsteps.apart ha hstep hne p hp' hp
    · rintro rfl
      exact ⟨b, hstep, hp⟩
  obtain ⟨houtcomes, hall, halone, hview⟩ :=
    (isolates_start hfirst i own).run (isolates_start hfirst' i own) rfl hown hsteps.chosen
  refine ⟨fun l counter taken => l.checkUnder_drawn counter, houtcomes, ?_⟩
  intro collection collector id certificate policy
  rw [hall.produce_eq, halone.produce_eq, hview]

/-- Two operations that take turns: one has two data objects with a commitment that they share, and
declares it once too often; the other one draws numbers in between.  A layout with two references,
between which the counter runs over. -/
theorem independent_of_two_operations :
    let approval : DataObjectProperty := ⟨⟨0⟩, .commitment { uri := "approval" }⟩
    let origin : DataObjectProperty := ⟨⟨1⟩, .commitment { uri := "origin" }⟩
    let layout : PropertyLayout :=
      { references := ["a", "b"]
        entries := [⟨.commitmentType, .signedDataObject, ["a", "b"]⟩] }
    let steps : List (Bool × Action) :=
      [(false, .describe "x.txt"), (true, .describeAs "a" "a.txt"), (false, .openCollection),
        (false, .checkLayout layout), (true, .describeAs "b" "b.txt"), (true, .openCollection),
        (true, .declare ⟨1⟩ approval), (false, .declare ⟨1⟩ origin), (true, .declare ⟨2⟩ approval),
        (true, .declare ⟨2⟩ approval), (true, .register ⟨1⟩ 0), (false, .register ⟨1⟩ 0),
        (true, .register ⟨2⟩ 0), (true, .checkLayout layout)]
    let alone : List (Bool × Action) := steps.filter (·.1 = true)
    layout.checkUnder (.ofList (layout.references.zip (DataObjectId.drawn (2 ^ 64 - 3) [2, 5]))) =
        layout.check ∧
      ((start 7).outcomes steps).filter (·.1 = true) = (start 1).outcomes alone ∧
      ∃ q l, (((start 7).run steps).produce true 0 {} ⟨2⟩ ⟨[]⟩ none).map
            (Except.mapError Error.cause) = some (.ok (q, l)) ∧
          l.references = ["a", "b"] ∧
          l.entries.map (fun e => (e.kind, e.targets)) =
            [(.signingCertificate, []), (.commitmentType, ["a", "b"])] := by
  intro approval origin layout steps alone
  have hsteps : IsIndependent true steps :=
    { chosen := by simp [steps]
      apart := by
        simp [steps, Action.property?, approval, origin] }
  obtain ⟨hcheck, houtcomes, hproduce⟩ :=
    independent hsteps (by decide : 1 ≤ 7) (by decide : 1 ≤ 1)
  refine ⟨hcheck layout (2 ^ 64 - 3) [2, 5] rfl (by decide), houtcomes, ?_⟩
  have hmade : (((start 1).run alone).produce true 0 {} ⟨2⟩ ⟨[]⟩ none).map (fun made =>
      made.toOption.map fun m => (m.2.references, m.2.entries.map fun e => (e.kind, e.targets))) =
        some (some (["a", "b"],
          [(.signingCertificate, []), (.commitmentType, ["a", "b"])])) := by
    decide +kernel
  rw [hproduce]
  obtain ⟨made, hmade, hlayout⟩ := Option.map_eq_some_iff.1 hmade
  obtain ⟨⟨q, l⟩, hok, hlayout⟩ := Option.map_eq_some_iff.1 hlayout
  rw [Prod.mk.injEq] at hlayout
  refine ⟨q, l, ?_, hlayout⟩
  rw [hmade]
  cases made with
  | error e => cases hok
  | ok m =>
    cases hok
    rfl

end Process

end AdvancedSignature
