import AdvancedSignature.Proofs.Declaration.Requests
import AdvancedSignature.Proofs.Declaration.Settled

/-!
# Assembling

What is assembled from a collector and a collection, and when.  The properties of the signature are
taken in without fail, so that a missing target is the one reason not to assemble.

* `SignedDataObjects.checkTargets_cases`: every target is found, or one that is not is reported.
* `QualifyingProperties.assemble_eq`: assembling fails as checking the targets does, and else it
  fills the containers in order.
* `QualifyingProperties.assemble_iff`: both together, after any run and with any collector.
-/

namespace AdvancedSignature

/-! ## Targets -/

namespace SignedDataObjects

variable {c : SignedDataObjects} {t : TargetTable} {p : DataObjectProperty}

/-- The targets are data objects of the collection. -/
def Includes (c : SignedDataObjects) (targets : List DataObjectId) : Prop :=
  ∀ id ∈ targets, ∃ o ∈ c.objects, o.id = id

/-- The error names a property and a target of it that is not in the collection. -/
def Misses (c : SignedDataObjects) (s : TargetSet) (e : Error) : Prop :=
  ∃ id ∈ s.targets, (∀ o ∈ c.objects, o.id ≠ id) ∧
    e = .unresolvedTarget s!"{s.kind.name} targets data object {id.render} which is not signed"

theorem Misses.not_includes {s : TargetSet} {e : Error} (h : c.Misses s e) :
    ¬ c.Includes s.targets := by
  obtain ⟨id, hid, hmissing, -⟩ := h
  intro hall
  obtain ⟨o, ho, heq⟩ := hall id hid
  exact hmissing o ho heq

/-- Targets are resolved if all are there, and else one that is missing is reported. -/
theorem resolveTargets_cases (c : SignedDataObjects) (s : TargetSet) :
    (∃ os, c.resolveTargets s = .ok os) ∧ c.Includes s.targets ∨
      ∃ e, c.resolveTargets s = .error e ∧ c.Misses s e := by
  cases h : c.resolveTargets s with
  | ok os =>
    refine Or.inl ⟨⟨os, rfl⟩, fun id hid => ?_⟩
    obtain ⟨hos, hids⟩ := of_resolveTargets h
    rw [← hids] at hid
    obtain ⟨o, ho, rfl⟩ := List.mem_map.1 hid
    rw [← hos] at ho
    obtain ⟨id, -, hget⟩ := List.mem_filterMap.1 ho
    exact ⟨o, List.mem_of_find?_eq_some hget, rfl⟩
  | error e =>
    refine Or.inr ⟨e, rfl, ?_⟩
    obtain ⟨before, id, after, hl, -, hid⟩ := mapM_eq_error_iff.1 h
    refine ⟨id, by simp [hl], ?_⟩
    cases hget : c.get? id with
    | some o =>
      simp only [hget] at hid
      cases hid
    | none =>
      simp only [hget] at hid
      cases hid
      exact ⟨by simpa [get?] using hget, rfl⟩

/-- Targets in the collection are found there, each under its identity. -/
theorem Includes.resolveTargets_eq (h : c.Includes (t.ofProperty p)) :
    c.resolveTargets (t.targetSet p) = .ok (c.targetsOf t p) ∧
      (c.targetsOf t p).map DataObjectDescription.id = t.ofProperty p := by
  rcases c.resolveTargets_cases (t.targetSet p) with ⟨⟨os, hos⟩, -⟩ | ⟨e, -, hmisses⟩
  · obtain ⟨rfl, hids⟩ := of_resolveTargets hos
    exact ⟨hos, hids⟩
  · exact absurd h hmisses.not_includes

/-- The targets of everything that is held are checked. -/
theorem checkTargets_cases (c : SignedDataObjects) (t : TargetTable) :
    (c.checkTargets t = .ok () ∧ ∀ p, c.Holds p → c.Includes (t.ofProperty p)) ∨
      ∃ e, c.checkTargets t = .error e ∧ ∃ p, c.Holds p ∧ c.Misses (t.targetSet p) e := by
  -- the check of one property, in either list
  let check (p : DataObjectProperty) : Except Error Unit := do
    let _ ← c.resolveTargets (t.targetSet p)
  have hcases (p : DataObjectProperty) := c.resolveTargets_cases (t.targetSet p)
  have hok {p : DataObjectProperty} (h : check p = .ok ()) : c.Includes (t.ofProperty p) := by
    obtain ⟨os, hos, -⟩ := bind_eq_ok_iff.1 h
    rcases hcases p with ⟨-, hincludes⟩ | ⟨e, he, -⟩
    · exact hincludes
    · rw [he] at hos
      cases hos
  have herror {p : DataObjectProperty} {e : Error} (h : check p = .error e) :
      c.Misses (t.targetSet p) e := by
    rcases hcases p with ⟨⟨os, hos⟩, -⟩ | ⟨e', he', hmisses⟩
    · simp [check, hos, pure, Except.pure] at h
    · simp only [check, he', error_bind, Except.error.injEq] at h
      exact h ▸ hmisses
  cases h : c.checkTargets t with
  | ok u =>
    obtain ⟨_, hsigned, hunsigned⟩ := bind_eq_ok_iff.1 h
    refine Or.inl ⟨rfl, fun p hp => hok ?_⟩
    rcases holds_iff_mem.1 hp with hp | hp
    · exact forM_eq_ok_iff.1 hsigned p hp
    · exact forM_eq_ok_iff.1 hunsigned p hp
  | error e =>
    refine Or.inr ⟨e, rfl, ?_⟩
    rcases bind_eq_error_iff.1 h with hsigned | ⟨_, -, hunsigned⟩
    · obtain ⟨before, p, after, hl, -, hp⟩ := forM_eq_error_iff.1 hsigned
      exact ⟨p, holds_iff_mem.2 (Or.inl (by simp [hl])), herror hp⟩
    · obtain ⟨before, p, after, hl, -, hp⟩ := forM_eq_error_iff.1 hunsigned
      exact ⟨p, holds_iff_mem.2 (Or.inr (by simp [hl])), herror hp⟩

end SignedDataObjects

/-! ## Properties of the signature -/

namespace QualifyingProperties

variable {q : QualifyingProperties}

/-- Properties that all together keep the discipline are taken in one after the other. -/
theorem IsDisciplined.foldlM_addSignedSignature_eq (hq : q.IsDisciplined)
    (ps : List SignedSignatureProperty) (hnodup : (q.signedSignature.entries ++ ps).Nodup)
    (hsingle : (q.signedSignature.entries ++ ps).Pairwise fun p p' =>
      p.kind.insertionPolicy = .put → p'.kind ≠ p.kind) :
    ∃ bag : Bag SignedSignatureProperty,
      ps.foldlM QualifyingProperties.addSignedSignature q = .ok { q with signedSignature := bag } ∧
        bag.entries = q.signedSignature.entries ++ ps := by
  induction ps generalizing q with
  | nil => exact ⟨q.signedSignature, rfl, (List.append_nil _).symm⟩
  | cons p rest ih =>
    have hadmits : q.signedSignature.Admits p := by
      refine ⟨fun hp => ?_, fun hput hkind => ?_⟩
      · exact (List.nodup_append.1 hnodup).2.2 p hp p List.mem_cons_self rfl
      · obtain ⟨p', hp', hsame⟩ := List.mem_map.1 hkind
        replace hsame : p'.kind = p.kind := hsame
        have hne := (List.pairwise_append.1 hsingle).2.2 p' hp' p List.mem_cons_self
        rw [hsame] at hne
        exact hne hput rfl
    have hput := (hq.signedSignature.putOrAdd_eq_ok_iff p).2 ⟨hadmits, rfl⟩
    let q₁ : QualifyingProperties := { q with signedSignature := q.signedSignature.append p }
    have hadd : q.addSignedSignature p = .ok q₁ := by
      unfold QualifyingProperties.addSignedSignature
      rw [hput]
      rfl
    have hq₁ : q₁.IsDisciplined := hq.addSignedSignature hadd
    rw [List.append_cons] at hnodup hsingle
    obtain ⟨bag, hfold, hentries⟩ := ih hq₁ hnodup hsingle
    refine ⟨bag, ?_, ?_⟩
    · rw [List.foldlM_cons, hadd]
      exact hfold
    · rw [hentries, List.append_cons]
      rfl

/-- The properties that a signature has of its own: the certificate, and the policy if there is
one. -/
def own (id : InstanceId) (certificate : SigningCertificate) (policy : Option SignaturePolicy) :
    List SignedSignatureProperty :=
  ⟨id, .signingCertificate certificate⟩ :: policy.toList.map fun p => ⟨id, .policy p⟩

variable {id : InstanceId} {certificate : SigningCertificate} {policy : Option SignaturePolicy}

theorem kind_of_mem_own {p : SignedSignatureProperty} (h : p ∈ own id certificate policy) :
    p.kind = .signingCertificate ∨ p.kind = .signaturePolicy := by
  rcases List.mem_cons.1 h with rfl | h
  · exact Or.inl rfl
  · obtain ⟨policy, -, rfl⟩ := List.mem_map.1 h
    exact Or.inr rfl

variable (id certificate policy)

theorem pairwise_own :
    (own id certificate policy).Pairwise fun p p' => p'.kind ≠ p.kind := by
  cases policy with
  | none => exact List.pairwise_singleton _ _
  | some policy => exact List.pairwise_pair.2 nofun

/-- Nothing is collected of the kinds that a signature has of its own. -/
theorem kind_of_collected {next : Nat} {requests : List CollectorRequest}
    {p : SignedSignatureProperty} (h : p ∈ (Collector.collectAll {} next requests).signed.entries) :
    p.kind ≠ .signingCertificate ∧ p.kind ≠ .signaturePolicy := by
  rw [(Collector.entries_collectAll next requests).1] at h
  obtain ⟨⟨id, r⟩, -, hr⟩ := List.mem_filterMap.1 h
  rw [← CollectorRequest.kind_of_signed? hr]
  exact r.kind_ne

/-- What a signature has of its own and what was collected keep the discipline together. -/
theorem discipline_own_append_collected (next : Nat) (requests : List CollectorRequest) :
    let ps := own id certificate policy ++ (Collector.collectAll {} next requests).signed.entries
    ps.Nodup ∧ ps.Pairwise fun p p' => p.kind.insertionPolicy = .put → p'.kind ≠ p.kind := by
  have hcollected := (Collector.isDisciplined_empty.collectAll next requests).signed
  have hcross : ∀ p ∈ own id certificate policy,
      ∀ p' ∈ (Collector.collectAll {} next requests).signed.entries, p'.kind ≠ p.kind := by
    intro p hp p' hp' hkind
    obtain ⟨hcertificate, hpolicy⟩ := kind_of_collected hp'
    rw [hkind] at hcertificate hpolicy
    exact (kind_of_mem_own hp).elim hcertificate hpolicy
  have hown := pairwise_own id certificate policy
  constructor
  · refine List.nodup_append.2 ⟨hown.imp ?_, hcollected.nodup, fun p hp p' hp' heq => ?_⟩
    · rintro p p' hkind rfl
      exact hkind rfl
    · exact hcross p hp p' hp' (heq ▸ rfl)
  · refine List.pairwise_append.2 ⟨hown.imp ?_, hcollected.single, fun p hp p' hp' _ => ?_⟩
    · exact fun hkind _ => hkind
    · exact hcross p hp p' hp'

/-! ## Assembling -/

/-- Assembling fails as checking the targets does, and in no other way.  Then the containers are
filled in order. -/
theorem assemble_eq (next : Nat) (requests : List CollectorRequest) (objects : SignedDataObjects)
    (table : TargetTable) :
    let collector := Collector.collectAll {} next requests
    ∃ bag : Bag SignedSignatureProperty,
      bag.entries = own id certificate policy ++ collector.signed.entries ∧
        assemble collector objects table id certificate policy =
          (objects.checkTargets table).map fun _ =>
            { signedSignature := bag
              signedDataObjects := objects.signedProperties
              unsignedSignature := collector.unsigned
              unsignedDataObjects := objects.unsignedProperties } := by
  intro collector
  obtain ⟨hnodup, hsingle⟩ := discipline_own_append_collected id certificate policy next requests
  obtain ⟨bag, hfold, hentries⟩ :=
    isDisciplined_empty.foldlM_addSignedSignature_eq (own id certificate policy ++ _) hnodup hsingle
  refine ⟨bag, hentries, ?_⟩
  unfold assemble
  cases objects.checkTargets table with
  | error e => rfl
  | ok _ =>
    rw [ok_bind]
    change (List.foldlM QualifyingProperties.addSignedSignature {}
      (own id certificate policy ++ collector.signed.entries) >>= _) = _
    rw [hfold]
    rfl

/-- **Assembling loses nothing, duplicates nothing, and fails for one reason only.**  After any run
and with whatever was collected, it succeeds exactly if every target of every property that a data
object holds is in the collection, and else it reports one that is not.  The signature has its own
properties before the collected ones, and the properties of the data objects are listed once each,
where they first occur. -/
theorem assemble_iff {actions : List Action} {objects : SignedDataObjects}
    (hobjects : objects ∈ (({} : Declarations).run actions).collections)
    (next : Nat) (requests : List CollectorRequest) (id : InstanceId)
    (certificate : SigningCertificate) (policy : Option SignaturePolicy) :
    let table := (({} : Declarations).run actions).table
    let collector := Collector.collectAll {} next requests
    let result := assemble collector objects table id certificate policy
    let isClosed := ∀ o ∈ objects.objects, ∀ p, p ∈ o.signed.entries ∨ p ∈ o.unsigned.entries →
      ∀ target ∈ table.ofProperty p, ∃ o' ∈ objects.objects, o'.id = target
    ((∃ q, result = .ok q) ↔ isClosed) ∧
      (¬ isClosed → ∃ reason, result = .error (.unresolvedTarget reason)) ∧
      ∀ q, result = .ok q →
        q.signedSignature.entries =
            ⟨id, .signingCertificate certificate⟩ :: policy.toList.map (fun p => ⟨id, .policy p⟩) ++
              collector.signed.entries ∧
          q.unsignedSignature = collector.unsigned ∧
          q.signedDataObjects.Lists
            (objects.objects.flatMap (·.signed.entries) ++ objects.forAllSigned.entries) ∧
          q.unsignedDataObjects.Lists
            (objects.objects.flatMap (·.unsigned.entries) ++ objects.forAllUnsigned.entries) ∧
          collector.signed.entries =
            (CollectorRequest.met next requests).filterMap (fun r => r.2.signed? r.1) ∧
          collector.unsigned.entries =
            (CollectorRequest.met next requests).filterMap (fun r => r.2.unsigned? r.1) := by
  intro table collector result isClosed
  have hs : (({} : Declarations).run actions).IsConsistent :=
    (Declarations.isConsistent_start 1).run actions
  obtain ⟨bag, hbag, hresult⟩ := assemble_eq id certificate policy next requests objects table
  replace hresult : result = _ := hresult
  rcases objects.checkTargets_cases table with ⟨hchecked, hincludes⟩ | ⟨e, he, p, hp, hmisses⟩
  · have hclosed : isClosed := fun o ho p hp target htarget =>
      hincludes p (Or.inl ⟨o, ho, hp⟩) target htarget
    rw [hchecked] at hresult
    refine ⟨iff_of_true ⟨_, hresult⟩ hclosed, fun hnot => absurd hclosed hnot, fun q hq => ?_⟩
    rw [hresult] at hq
    cases hq
    obtain ⟨hsigned, hunsigned⟩ := Collector.entries_collectAll next requests
    exact ⟨hbag, rfl, InstanceList.lists_ofList _, InstanceList.lists_ofList _, hsigned, hunsigned⟩
  · rw [he] at hresult
    have hnot : ¬ isClosed := by
      intro hclosed
      -- a property for all data objects has no targets to be missed
      rcases hp with ⟨o, ho, hp⟩ | hall
      · exact hmisses.not_includes (hclosed o ho p hp)
      · have hnil := hs.table.eq_nil ((hs.collections objects hobjects).multiplicity_eq_all p hall)
        refine hmisses.not_includes fun target htarget => ?_
        replace htarget : target ∈ table.ofProperty p := htarget
        simp [table, hnil] at htarget
    obtain ⟨target, -, -, rfl⟩ := hmisses
    refine ⟨iff_of_false ?_ hnot, fun _ => ⟨_, hresult⟩, fun q hq => ?_⟩
    · rintro ⟨q, hq⟩
      rw [hresult] at hq
      cases hq
    · rw [hresult] at hq
      cases hq

/-- Two data objects that share a commitment, with a format on the second one and a time-stamp on
both; a property for all and a second request for the role of the signer. -/
theorem assemble_of_two_objects :
    let commitment : DataObjectProperty := ⟨⟨0⟩, .commitment { uri := "approval" }⟩
    let format : DataObjectProperty := ⟨⟨1⟩, .format { mimeType := some "text/plain" }⟩
    let stamp : DataObjectProperty := ⟨⟨2⟩, .timeStamp ⟨.allDataObjects, ⟨"c14n", []⟩⟩⟩
    let actions : List Action :=
      [.describeAs "a" "a.txt", .describeAs "b" "b.txt", .openCollection, .declare ⟨2⟩ format,
        .declare ⟨2⟩ commitment, .declare ⟨1⟩ commitment, .register ⟨1⟩ 0, .register ⟨2⟩ 0,
        .declareForAll 0 stamp]
    let requests : List CollectorRequest :=
      [.signerRole {}, .otherSigned ⟨"a", "<a/>"⟩, .signerRole {}]
    ∃ objects q, objects ∈ (({} : Declarations).run actions).collections ∧
      assemble (Collector.collectAll {} 3 requests) objects
        (({} : Declarations).run actions).table ⟨6⟩ ⟨[]⟩ (some .implied) = .ok q ∧
      q.signedSignature.entries =
        [⟨⟨6⟩, .signingCertificate ⟨[]⟩⟩, ⟨⟨6⟩, .policy .implied⟩, ⟨⟨3⟩, .signerRole {}⟩,
          ⟨⟨4⟩, .other ⟨"a", "<a/>"⟩⟩] ∧
      q.signedDataObjects.Lists [commitment, format, commitment, stamp] := by
  intro commitment format stamp actions requests
  obtain ⟨objects, hobjects, hok, hwalk⟩ :
      ∃ objects ∈ (({} : Declarations).run actions).collections,
        (assemble (Collector.collectAll {} 3 requests) objects
          (({} : Declarations).run actions).table ⟨6⟩ ⟨[]⟩ (some .implied)).isOk = true ∧
        objects.objects.flatMap (·.signed.entries) ++ objects.forAllSigned.entries =
          [commitment, format, commitment, stamp] := by
    decide +kernel
  obtain ⟨-, -, hfilled⟩ := assemble_iff hobjects 3 requests ⟨6⟩ ⟨[]⟩ (some .implied)
  cases hq : assemble (Collector.collectAll {} 3 requests) objects
      (({} : Declarations).run actions).table ⟨6⟩ ⟨[]⟩ (some .implied) with
  | error e =>
    rw [hq] at hok
    cases hok
  | ok q =>
    obtain ⟨hsigned, -, hlists, -⟩ := hfilled q hq
    refine ⟨objects, q, hobjects, hq, ?_, hwalk ▸ hlists⟩
    rw [hsigned]
    decide +kernel

end QualifyingProperties

end AdvancedSignature
