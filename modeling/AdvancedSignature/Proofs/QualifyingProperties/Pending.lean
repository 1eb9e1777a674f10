import AdvancedSignature.Proofs.QualifyingProperties.Contents
import AdvancedSignature.Proofs.TimeStamp.Resolution

/-!
# Pending time-stamps

A time-stamp may be attached to several data objects and is one property all the same: whoever gets
hold of it, by a data object, by a list of the signature or because it was kept, completes the same
one.

* `QualifyingProperties.ListsPending` says what the list of pending time-stamps is to hold.
* `Handle` is a way to get hold of a property, and `Handle.run` makes calls through handles one
  after the other.
* `Handle.Step` says what one call does to the list (`Handle.step_call`), and `Handle.Recedes` what
  a run does (`Handle.recedes_run`): the list only loses what is completed.
* `QualifyingProperties.pendingTimeStamps_recede` puts the two together.
-/

namespace AdvancedSignature

/-! ## The time-stamp of one property -/

namespace Resolutions

variable {r : Resolutions} {p : QualifyingProperty}

theorem timeStamp?_of_eq_none (h : p.timeStamp? = none) : r.timeStamp? p = none := by
  rw [timeStamp?, h]
  rfl

theorem timeStamp?_of_eq_some {d : TimeStampDeclaration} (h : p.timeStamp? = some d) :
    r.timeStamp? p = some ⟨d, r.ofProperty p⟩ := by
  rw [timeStamp?, h]
  rfl

theorem isPending_iff :
    r.isPending p = true ↔ (∃ d, p.timeStamp? = some d) ∧ r.ofProperty p = none := by
  rw [isPending, timeStamp?]
  cases p.timeStamp? with
  | none => simp
  | some d => simp [TimeStamp.isResolved]

/-- Recording a time-stamp as it stands changes nothing. -/
theorem set_of_ofProperty {ts : TimeStamp} (h : r.ofProperty p = ts.resolution) :
    r.set p ts = r := by
  obtain ⟨ofProperty⟩ := r
  refine congrArg Resolutions.mk (funext fun p' => ?_)
  by_cases hp : p' = p
  · rw [if_pos hp, hp]
    exact h.symm
  · rw [if_neg hp]

/-- Of all time-stamps the one that is completed is not pending any more. -/
theorem isPending_set_completed (r : Resolutions) (p : QualifyingProperty)
    (d : TimeStampDeclaration) (res : Resolution) (p' : QualifyingProperty) :
    (r.set p (d.completed res)).isPending p' = (r.isPending p' && p' != p) := by
  rw [Bool.eq_iff_iff, Bool.and_eq_true, isPending_iff, isPending_iff, bne_iff_ne, set]
  by_cases hp : p' = p
  · simp [hp, TimeStampDeclaration.completed]
  · simp [hp]

end Resolutions

namespace QualifyingProperties

variable {q : QualifyingProperties} {r : Resolutions} {p : QualifyingProperty}

/-! ## The list of pending time-stamps -/

theorem mem_pendingTimeStamps :
    p ∈ q.pendingTimeStamps r ↔ p ∈ q.properties ∧ r.isPending p = true := List.mem_filter

/-- Where the time-stamps of an assembled signature come from. -/
inductive StampSource (objects : SignedDataObjects) (collector : Collector) :
    QualifyingProperty → Prop
  /-- It is attached to a data object. -/
  | object {o : DataObjectDescription} {p : DataObjectProperty} (ho : o ∈ objects.objects)
      (hp : p ∈ o.signed.entries) : StampSource objects collector (.signedDataObject p)
  /-- It is for all data objects. -/
  | forAll {p : DataObjectProperty} (hp : p ∈ objects.forAllSigned.entries) :
      StampSource objects collector (.signedDataObject p)
  /-- It was collected for the signature. -/
  | collected {p : UnsignedSignatureProperty} (hp : p ∈ collector.unsigned.entries) :
      StampSource objects collector (.unsignedSignature p)

/-- The list holds the time-stamps that are still to be resolved. -/
structure ListsPending (q : QualifyingProperties) (objects : SignedDataObjects)
    (collector : Collector) (r : Resolutions) (l : List QualifyingProperty) : Prop where
  /-- They are in document order. -/
  order : l.Sublist q.properties
  /-- However many data objects a time-stamp is attached to, it is listed once. -/
  nodup : l.Nodup
  /-- All are there that declare a time-stamp and are not resolved. -/
  mem_iff : ∀ p, p ∈ l ↔ StampSource objects collector p ∧ (∃ d, p.timeStamp? = some d) ∧
    r.ofProperty p = none

section Assembled

variable {next : Nat} {requests : List CollectorRequest} {objects : SignedDataObjects}
  {table : TargetTable} {id : InstanceId} {certificate : SigningCertificate}
  {policy : Option SignaturePolicy}

/-- Only properties of data objects that are signed and collected ones that are not declare
time-stamps. -/
theorem mem_properties_iff_stampSource
    (h : assemble (Collector.collectAll {} next requests) objects table id certificate policy =
      .ok q) {d : TimeStampDeclaration} (hd : p.timeStamp? = some d) :
    p ∈ q.properties ↔ StampSource objects (Collector.collectAll {} next requests) p := by
  obtain ⟨bag, -, heq⟩ := assemble_eq id certificate policy next requests objects table
  rw [h] at heq
  obtain ⟨_, -, rfl⟩ := map_eq_ok_iff.1 heq.symm
  rw [mem_properties, mem_contents]
  cases p with
  | signedSignature p => cases hd
  | unsignedDataObject p => cases hd
  | signedDataObject p =>
    refine SignedDataObjects.mem_signedProperties.trans ⟨?_, ?_⟩
    · rintro (⟨o, ho, hp⟩ | hp)
      · exact .object ho hp
      · exact .forAll hp
    · rintro (⟨ho, hp⟩ | hp)
      · exact .inl ⟨_, ho, hp⟩
      · exact .inr hp
  | unsignedSignature p =>
    constructor
    · exact .collected
    · rintro ⟨⟩
      assumption

theorem listsPending
    (h : assemble (Collector.collectAll {} next requests) objects table id certificate policy =
      .ok q) (r : Resolutions) :
    q.ListsPending objects (Collector.collectAll {} next requests) r (q.pendingTimeStamps r) where
  order := List.filter_sublist
  nodup := (Origin.assembled h).isConsistent.nodup_properties.filter _
  mem_iff p := by
    rw [mem_pendingTimeStamps, Resolutions.isPending_iff]
    constructor
    · rintro ⟨hp, ⟨d, hd⟩, hnone⟩
      exact ⟨(mem_properties_iff_stampSource h hd).1 hp, ⟨d, hd⟩, hnone⟩
    · rintro ⟨hp, ⟨d, hd⟩, hnone⟩
      exact ⟨(mem_properties_iff_stampSource h hd).2 hp, ⟨d, hd⟩, hnone⟩

end Assembled

/-- Completing a time-stamp takes it from the list and leaves the others there. -/
theorem pendingTimeStamps_set_completed (hq : q.properties.Nodup) (p : QualifyingProperty)
    (d : TimeStampDeclaration) (res : Resolution) :
    q.pendingTimeStamps (r.set p (d.completed res)) = (q.pendingTimeStamps r).erase p := by
  have hpending : (q.pendingTimeStamps r).Nodup := hq.filter _
  rw [hpending.erase_eq_filter, pendingTimeStamps, pendingTimeStamps, List.filter_filter]
  refine List.filter_congr fun p' _ => ?_
  rw [Resolutions.isPending_set_completed, Bool.and_comm]

end QualifyingProperties

/-! ## Handles -/

/-- A way to get hold of a property of a signature. -/
inductive Handle where
  /-- The caller has kept it. -/
  | kept (p : QualifyingProperty)
  /-- It stands at a position among the signed properties of a data object. -/
  | inBag (object : DataObjectId) (position : Nat)
  /-- It stands at a position among the signed properties for all data objects. -/
  | forAll (position : Nat)
  /-- It stands at a position in the list of all properties. -/
  | listed (position : Nat)
  /-- It stands at a position in the list of pending time-stamps. -/
  | pending (position : Nat)

namespace Handle

open TimeStamp (Call)

variable {objects : SignedDataObjects} {q : QualifyingProperties} {r : Resolutions}
  {p : QualifyingProperty} {handle : Handle}

/-- The property behind the handle. -/
def property? (objects : SignedDataObjects) (q : QualifyingProperties) (r : Resolutions) :
    Handle → Option QualifyingProperty
  | .kept p => some p
  | .inBag object position => do
      let o ← objects.get? object
      let p ← o.signed.entries[position]?
      return .signedDataObject p
  | .forAll position => objects.forAllSigned.entries[position]?.map .signedDataObject
  | .listed position => q.properties[position]?
  | .pending position => (q.pendingTimeStamps r)[position]?

/-- What is not kept by the caller is a property of the signature. -/
theorem property?_cases (hobjects : q.signedDataObjects = objects.signedProperties)
    (h : handle.property? objects q r = some p) : handle = .kept p ∨ p ∈ q.properties := by
  have hheld {p : DataObjectProperty}
      (hp : (∃ o ∈ objects.objects, p ∈ o.signed.entries) ∨ p ∈ objects.forAllSigned.entries) :
      .signedDataObject p ∈ q.properties := by
    rw [QualifyingProperties.mem_properties, QualifyingProperties.mem_contents, hobjects]
    exact SignedDataObjects.mem_signedProperties.2 hp
  cases handle with
  | kept p' =>
    cases h
    exact .inl rfl
  | inBag object position =>
    simp only [property?, Option.bind_eq_bind, Option.bind_eq_some_iff, Option.pure_def,
      Option.some.injEq] at h
    obtain ⟨o, ho, p, hp, rfl⟩ := h
    exact .inr (hheld (.inl ⟨o, List.mem_of_find?_eq_some ho, List.mem_of_getElem? hp⟩))
  | forAll position =>
    obtain ⟨p, hp, rfl⟩ := Option.map_eq_some_iff.1 h
    exact .inr (hheld (.inr (List.mem_of_getElem? hp)))
  | listed position => exact .inr (List.mem_of_getElem? h)
  | pending position =>
    exact .inr (QualifyingProperties.mem_pendingTimeStamps.1 (List.mem_of_getElem? h)).1

/-- What a call answers, if there was a time-stamp to call on, and how the time-stamps stand
then. -/
structure Event where
  answer : Option (Except Error (Option DateTime))
  resolutions : Resolutions

section Calls

variable {m : Type → Type} [Monad m]

/-- Makes a call on the time-stamp of the property, if it declares one. -/
def callOn (r : Resolutions) (p : QualifyingProperty) (call : Call m) : m Event :=
  match r.timeStamp? p with
  | none => return ⟨none, r⟩
  | some ts => do
      let (answer, ts) ← Call.perform ts call
      return ⟨some answer, r.set p ts⟩

/-- Makes a call through the handle, if it leads to a property. -/
def call (objects : SignedDataObjects) (q : QualifyingProperties) (r : Resolutions)
    (handle : Handle) (call : Call m) : m Event :=
  match handle.property? objects q r with
  | none => return ⟨none, r⟩
  | some p => callOn r p call

/-- Makes calls through handles one after the other. -/
def run (objects : SignedDataObjects) (q : QualifyingProperties) (r : Resolutions) :
    List (Handle × Call m) → m (List Event)
  | [] => return []
  | (handle, call) :: rest => do
      let event ← handle.call objects q r call
      let later ← run objects q event.resolutions rest
      return event :: later

end Calls

/-! ## One call -/

/-- What a call through the handle does to the list of pending time-stamps. -/
inductive Step (objects : SignedDataObjects) (q : QualifyingProperties) (r : Resolutions)
    (handle : Handle) : Event → Prop
  /-- There is no time-stamp behind the handle. -/
  | idle (hnone : ∀ p, handle.property? objects q r = some p → p.timeStamp? = none) :
      Step objects q r handle ⟨none, r⟩
  /-- A call that fails leaves everything as it was. -/
  | failed {e : Error} : Step objects q r handle ⟨some (.error e), r⟩
  /-- A call that succeeds takes the one property from the list, which was there. -/
  | completed {p : QualifyingProperty} {time : Option DateTime} {r' : Resolutions}
      (hp : handle.property? objects q r = some p) (hmem : p ∈ q.pendingTimeStamps r)
      (herase : q.pendingTimeStamps r' = (q.pendingTimeStamps r).erase p) :
      Step objects q r handle ⟨some (.ok time), r'⟩
  /-- The caller has completed something that the signature does not have. -/
  | elsewhere {p : QualifyingProperty} {time : Option DateTime} {r' : Resolutions}
      (hkept : handle = .kept p) (hmem : p ∉ q.properties)
      (hsame : q.pendingTimeStamps r' = q.pendingTimeStamps r) :
      Step objects q r handle ⟨some (.ok time), r'⟩

variable {σ : Type}

/-- A call on the time-stamp of a property fails and changes nothing, or completes what was
pending. -/
theorem callOn_cases {d : TimeStampDeclaration} (hd : p.timeStamp? = some d)
    (call : Call (StateM σ)) (w : σ) :
    (∃ e w', (callOn r p call).run w = (⟨some (.error e), r⟩, w')) ∨
      r.isPending p = true ∧ ∃ time res w',
        (callOn r p call).run w = (⟨some (.ok time), r.set p (d.completed res)⟩, w') := by
  let ts : TimeStamp := ⟨d, r.ofProperty p⟩
  have hts : r.timeStamp? p = some ts := Resolutions.timeStamp?_of_eq_some hd
  rw [callOn, hts]
  rcases Call.perform_cases ts call w with ⟨e, w', hperform⟩ | ⟨hpending, time, res, w', hperform⟩
  · have hsame : r.set p ts = r := Resolutions.set_of_ofProperty rfl
    refine .inl ⟨e, w', (run_bind_of_eq hperform).trans ?_⟩
    show (pure ⟨some (.error e), r.set p ts⟩ : StateM σ Event).run w' = _
    rw [hsame]
    rfl
  · refine .inr ⟨?_, time, res, w', run_bind_of_eq hperform⟩
    rw [Resolutions.isPending, hts, Option.any_some, hpending]
    rfl

/-- Whatever the handle and the call, the list loses what is completed and nothing else. -/
theorem step_call (hq : q.properties.Nodup)
    (hobjects : q.signedDataObjects = objects.signedProperties) (r : Resolutions)
    (handle : Handle) (call : Call (StateM σ)) (w : σ) :
    ∃ event w', (handle.call objects q r call).run w = (event, w') ∧
      Step objects q r handle event := by
  unfold Handle.call
  cases hp : handle.property? objects q r with
  | none => exact ⟨_, w, rfl, .idle fun p h => nomatch hp.symm.trans h⟩
  | some p =>
    cases hd : p.timeStamp? with
    | none =>
      refine ⟨⟨none, r⟩, w, ?_, .idle fun p' h => ?_⟩
      · simp only [callOn, Resolutions.timeStamp?_of_eq_none hd]
        rfl
      · rw [hp] at h
        cases h
        exact hd
    | some d =>
      rcases callOn_cases hd call w with ⟨e, w', hcall⟩ | ⟨hpending, time, res, w', hcall⟩
      · exact ⟨_, w', hcall, .failed⟩
      · have herase := QualifyingProperties.pendingTimeStamps_set_completed (r := r) hq p d res
        by_cases hmem : p ∈ q.properties
        · exact ⟨_, w', hcall,
            .completed hp (QualifyingProperties.mem_pendingTimeStamps.2 ⟨hmem, hpending⟩) herase⟩
        · have hkept := (property?_cases hobjects hp).resolve_right hmem
          have hnot : p ∉ q.pendingTimeStamps r := fun h =>
            hmem (QualifyingProperties.mem_pendingTimeStamps.1 h).1
          rw [List.erase_of_not_mem hnot] at herase
          exact ⟨_, w', hcall, .elsewhere hkept hmem herase⟩

theorem Step.sublist {event : Event} (h : Step objects q r handle event) :
    (q.pendingTimeStamps event.resolutions).Sublist (q.pendingTimeStamps r) := by
  cases h with
  | idle => exact List.Sublist.refl _
  | failed => exact List.Sublist.refl _
  | completed hp hmem herase =>
    rw [herase]
    exact List.erase_sublist
  | elsewhere hkept hmem hsame => rw [hsame]

/-! ## Runs -/

/-- What calls through the handles do one after the other. -/
inductive Recedes (objects : SignedDataObjects) (q : QualifyingProperties) :
    Resolutions → List Handle → List Event → Prop
  | nil {r : Resolutions} : Recedes objects q r [] []
  | cons {r : Resolutions} {handle : Handle} {handles : List Handle} {event : Event}
      {events : List Event} (hstep : Step objects q r handle event)
      (hrest : Recedes objects q event.resolutions handles events) :
      Recedes objects q r (handle :: handles) (event :: events)

theorem recedes_run (hq : q.properties.Nodup)
    (hobjects : q.signedDataObjects = objects.signedProperties)
    (calls : List (Handle × Call (StateM σ))) (r : Resolutions) (w : σ) :
    Recedes objects q r (calls.map Prod.fst) ((run objects q r calls).run w).1 := by
  induction calls generalizing r w with
  | nil => exact .nil
  | cons c rest ih =>
    obtain ⟨handle, call⟩ := c
    obtain ⟨event, w', hcall, hstep⟩ := step_call hq hobjects r handle call w
    rw [run, run_bind_of_eq hcall]
    exact .cons hstep (ih event.resolutions w')

/-- What is not in the list any more does not return to it. -/
theorem Recedes.pairwise {handles : List Handle} {events : List Event}
    (h : Recedes objects q r handles events) :
    (r :: events.map Event.resolutions).Pairwise fun earlier later =>
      (q.pendingTimeStamps later).Sublist (q.pendingTimeStamps earlier) := by
  induction h with
  | nil => exact List.pairwise_singleton _ _
  | cons hstep hrest ih =>
    refine List.pairwise_cons.2 ⟨fun later hlater => ?_, ih⟩
    rcases List.mem_cons.1 hlater with rfl | hlater
    · exact hstep.sublist
    · exact ((List.pairwise_cons.1 ih).1 later hlater).trans hstep.sublist

end Handle

namespace QualifyingProperties

/-- **Pending time-stamps are tracked through whatever handle they are reached.**  Of an assembled
signature the list holds exactly the time-stamps that are not resolved, each once and in document
order.  Over any sequence of calls, by whatever handles, a call that fails changes nothing, one that
succeeds takes its one property from the list, and no property returns to it. -/
theorem pendingTimeStamps_recede {next : Nat} {requests : List CollectorRequest}
    {objects : SignedDataObjects} {table : TargetTable} {id : InstanceId}
    {certificate : SigningCertificate} {policy : Option SignaturePolicy} {q : QualifyingProperties}
    (h : assemble (Collector.collectAll {} next requests) objects table id certificate policy =
      .ok q) :
    (∀ r, q.ListsPending objects (Collector.collectAll {} next requests) r
      (q.pendingTimeStamps r)) ∧
    ∀ (σ : Type) (calls : List (Handle × TimeStamp.Call (StateM σ))) (r : Resolutions) (w : σ),
      let events := ((Handle.run objects q r calls).run w).1
      Handle.Recedes objects q r (calls.map Prod.fst) events ∧
        (r :: events.map Handle.Event.resolutions).Pairwise fun earlier later =>
          (q.pendingTimeStamps later).Sublist (q.pendingTimeStamps earlier) := by
  have hq := (Origin.assembled h).isConsistent.nodup_properties
  have hcollector := Collector.isDisciplined_empty.collectAll next requests
  obtain ⟨-, -, hobjects, -⟩ := of_assemble hcollector h
  refine ⟨listsPending h, fun σ calls r w => ?_⟩
  have hrecedes := Handle.recedes_run hq hobjects calls r w
  exact ⟨hrecedes, hrecedes.pairwise⟩

open TimeStamp.Call (echo) in
/-- A time-stamp on two data objects, beside one that was collected.  It is rejected and then
completed by the bag of the first data object, so that it is refused by the bag of the second; the
collected one has come first in the list by then. -/
theorem pendingTimeStamps_recede_of_shared :
    let shared : DataObjectProperty := ⟨⟨0⟩, .timeStamp ⟨.individualDataObjects, ⟨"c14n", []⟩⟩⟩
    let collected : UnsignedSignatureProperty := ⟨⟨1⟩, .signatureTimeStamp ⟨"c14n", []⟩⟩
    let state := ({} : Declarations).run
      [.describeAs "a" "a.txt", .describeAs "b" "b.txt", .openCollection, .declare ⟨1⟩ shared,
        .declare ⟨2⟩ shared, .register ⟨1⟩ 0, .register ⟨2⟩ 0]
    let collector := Collector.collectAll {} 1 [.signatureTimeStamp ⟨"c14n", []⟩]
    let input : DigestInput := ⟨⟨"c14n", []⟩, [7]⟩
    let calls : List (Handle × TimeStamp.Call (StateM Nat)) :=
      [(.inBag ⟨1⟩ 0, .verify echo [0, 8] input), (.inBag ⟨1⟩ 0, .stamp echo input),
        (.inBag ⟨2⟩ 0, .stamp echo input), (.pending 0, .verify echo [0, 7] input)]
    let both : List QualifyingProperty := [.signedDataObject shared, .unsignedSignature collected]
    ∃ objects ∈ state.collections, ∃ q,
      assemble collector objects state.table ⟨2⟩ ⟨[]⟩ none = .ok q ∧
      q.ListsPending objects collector {} both ∧
      let events := ((Handle.run objects q {} calls).run 0).1
      events.map (fun event => event.answer.map Except.isOk) =
        [some false, some true, some false, some true] ∧
      events.map (fun event => q.pendingTimeStamps event.resolutions) =
        [both, [.unsignedSignature collected], [.unsignedSignature collected], []] ∧
      Handle.Recedes objects q {} (calls.map Prod.fst) events := by
  intro shared collected state collector input calls both
  let eventsOf (objects : SignedDataObjects) (q : QualifyingProperties) : List Handle.Event :=
    ((Handle.run objects q {} calls).run 0).1
  obtain ⟨objects, hobjects, hok⟩ :
      ∃ objects ∈ state.collections,
        ((assemble collector objects state.table ⟨2⟩ ⟨[]⟩ none).map fun q =>
          (q.pendingTimeStamps {},
            (eventsOf objects q).map fun event => event.answer.map Except.isOk,
            (eventsOf objects q).map fun event => q.pendingTimeStamps event.resolutions)) =
          .ok (both, [some false, some true, some false, some true],
            [both, [.unsignedSignature collected], [.unsignedSignature collected], []]) := by
    decide +kernel
  obtain ⟨q, hq, hlists⟩ := map_eq_ok_iff.1 hok
  obtain ⟨hpending, hrest⟩ := Prod.mk.inj hlists
  obtain ⟨hanswers, hremaining⟩ := Prod.mk.inj hrest
  obtain ⟨hlisted, hrecedes⟩ := pendingTimeStamps_recede hq
  exact ⟨objects, hobjects, q, hq, hpending ▸ hlisted {}, hanswers, hremaining,
    (hrecedes Nat calls {} 0).1⟩

end QualifyingProperties

end AdvancedSignature
