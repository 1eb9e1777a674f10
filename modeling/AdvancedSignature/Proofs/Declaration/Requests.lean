import AdvancedSignature.Proofs.Property.Qualifying
import AdvancedSignature.Proofs.QualifyingProperties.Discipline

/-!
# What a collector holds

A collector holds the properties that were asked for, in the order of the requests.  It refuses a
request only for a kind that is put and that it holds already.

* `CollectorRequest.met` lists the requests that are met, each with the identity of its property.
* `Collector.entries_collectAll`: the containers hold the properties of these requests.
-/

namespace AdvancedSignature

namespace CollectorRequest

/-- What the property that is asked for says, among the signed or among the unsigned ones. -/
def content : CollectorRequest → SignedSignatureContent ⊕ UnsignedSignatureContent
  | .signingTime time => .inl (.signingTime time)
  | .productionPlace place => .inl (.productionPlace place)
  | .signerRole role => .inl (.signerRole role)
  | .otherSigned content => .inl (.other content)
  | .counterSignature xml => .inr (.counterSignature xml)
  | .signatureTimeStamp canonicalization => .inr (.signatureTimeStamp canonicalization)
  | .otherUnsigned content => .inr (.other content)

/-- The kind of the property that is asked for. -/
def kind (r : CollectorRequest) : PropertyKind :=
  r.content.elim SignedSignatureContent.kind UnsignedSignatureContent.kind

/-- The property that is asked for under an identity, if it is a signed one. -/
def signed? (id : InstanceId) (r : CollectorRequest) : Option SignedSignatureProperty :=
  r.content.getLeft?.map fun content => ⟨id, content⟩

/-- The property that is asked for under an identity, if it is an unsigned one. -/
def unsigned? (id : InstanceId) (r : CollectorRequest) : Option UnsignedSignatureProperty :=
  r.content.getRight?.map fun content => ⟨id, content⟩

/-- The requests that are met after others for the kinds `earlier`, each with its identity.  They
are all but those for a kind that is put and has been asked for. -/
def metAfter (earlier : List PropertyKind) (next : Nat) :
    List CollectorRequest → List (InstanceId × CollectorRequest)
  | [] => []
  | r :: rest =>
      if r.kind.insertionPolicy = .put ∧ r.kind ∈ earlier then metAfter earlier (next + 1) rest
      else (⟨next⟩, r) :: metAfter (r.kind :: earlier) (next + 1) rest

/-- The requests that a new collector meets, each with its identity. -/
def met (next : Nat) (requests : List CollectorRequest) : List (InstanceId × CollectorRequest) :=
  metAfter [] next requests

theorem kind_of_signed? {id : InstanceId} {r : CollectorRequest} {p : SignedSignatureProperty}
    (h : r.signed? id = some p) : r.kind = p.kind := by
  cases r <;> cases h <;> rfl

/-- No request is for the signing certificate or the policy. -/
theorem kind_ne (r : CollectorRequest) :
    r.kind ≠ .signingCertificate ∧ r.kind ≠ .signaturePolicy := by
  cases r <;> exact ⟨nofun, nofun⟩

end CollectorRequest

namespace Collector

/-- The kinds of the properties. -/
def kinds (c : Collector) : List PropertyKind :=
  c.signed.entries.map HasKind.kind ++ c.unsigned.entries.map HasKind.kind

/-- The identities of the properties have been given out. -/
def Precedes (c : Collector) (next : Nat) : Prop :=
  (∀ p ∈ c.signed.entries, p.id.val < next) ∧ ∀ p ∈ c.unsigned.entries, p.id.val < next

/-- The collector with the property of a request. -/
def take (c : Collector) (id : InstanceId) (r : CollectorRequest) : Collector :=
  match r.content with
  | .inl content => { c with signed := c.signed.append ⟨id, content⟩ }
  | .inr content => { c with unsigned := c.unsigned.append ⟨id, content⟩ }

variable {c : Collector} {next : Nat}

/-! ## One request -/

/-- A kind of signed properties is not among those of the unsigned ones. -/
theorem kind_mem_kinds_of_signed (p : SignedSignatureProperty) :
    p.kind ∈ c.kinds ↔ HasKind.kind p ∈ c.signed.entries.map HasKind.kind := by
  refine List.mem_append.trans (or_iff_left fun h => ?_)
  obtain ⟨u, -, hu⟩ := List.mem_map.1 h
  exact p.kind_ne u hu.symm

theorem kind_mem_kinds_of_unsigned (p : UnsignedSignatureProperty) :
    p.kind ∈ c.kinds ↔ HasKind.kind p ∈ c.unsigned.entries.map HasKind.kind := by
  refine List.mem_append.trans (or_iff_right fun h => ?_)
  obtain ⟨s, -, hs⟩ := List.mem_map.1 h
  exact s.kind_ne p hs

/-- A new property for one of the bags, of a kind that the other bag does not hold.  The collector
is `collected b` when that bag is `b`. -/
theorem map_putOrAdd_eq {α : Type} [HasKind α] [DecidableEq α] {b : Bag α} (hb : b.IsConsistent)
    (collected : Bag α → Collector) {p : α} (hp : p ∉ b.entries)
    (hkinds : HasKind.kind p ∈ c.kinds ↔ HasKind.kind p ∈ b.entries.map HasKind.kind) :
    (b.putOrAdd p).map collected =
      if (HasKind.kind p).insertionPolicy = .put ∧ HasKind.kind p ∈ c.kinds then
        .error (.duplicatePropertyKind (HasKind.kind p))
      else .ok (collected (b.append p)) := by
  simp only [hb.putOrAdd_of_notMem hp, hkinds]
  split_ifs <;> rfl

theorem IsDisciplined.withSigned_eq (hc : c.IsDisciplined) (hnext : c.Precedes next)
    {p : SignedSignatureProperty} (hid : p.id = ⟨next⟩) :
    c.withSigned (c.signed.putOrAdd p) =
      if p.kind.insertionPolicy = .put ∧ p.kind ∈ c.kinds then
        .error (.duplicatePropertyKind p.kind)
      else .ok { c with signed := c.signed.append p } := by
  have hp : p ∉ c.signed.entries := fun h =>
    Nat.ne_of_lt (hnext.1 p h) (congrArg InstanceId.val hid)
  exact map_putOrAdd_eq hc.signed.toIsConsistent (fun signed => { c with signed }) hp
    (kind_mem_kinds_of_signed p)

theorem IsDisciplined.withUnsigned_eq (hc : c.IsDisciplined) (hnext : c.Precedes next)
    {p : UnsignedSignatureProperty} (hid : p.id = ⟨next⟩) :
    c.withUnsigned (c.unsigned.putOrAdd p) =
      if p.kind.insertionPolicy = .put ∧ p.kind ∈ c.kinds then
        .error (.duplicatePropertyKind p.kind)
      else .ok { c with unsigned := c.unsigned.append p } := by
  have hp : p ∉ c.unsigned.entries := fun h =>
    Nat.ne_of_lt (hnext.2 p h) (congrArg InstanceId.val hid)
  exact map_putOrAdd_eq hc.unsigned.toIsConsistent (fun unsigned => { c with unsigned }) hp
    (kind_mem_kinds_of_unsigned p)

/-- A request is refused for a kind that is put and that is there already, and else it is met. -/
theorem IsDisciplined.collect_eq (hc : c.IsDisciplined) (hnext : c.Precedes next)
    (r : CollectorRequest) :
    c.collect ⟨next⟩ r =
      if r.kind.insertionPolicy = .put ∧ r.kind ∈ c.kinds then
        .error (.duplicatePropertyKind r.kind)
      else .ok (c.take ⟨next⟩ r) := by
  cases r with
  | signingTime time => exact hc.withSigned_eq hnext (p := ⟨⟨next⟩, .signingTime time⟩) rfl
  | productionPlace place =>
    exact hc.withSigned_eq hnext (p := ⟨⟨next⟩, .productionPlace place⟩) rfl
  | signerRole role => exact hc.withSigned_eq hnext (p := ⟨⟨next⟩, .signerRole role⟩) rfl
  | otherSigned content => exact hc.withSigned_eq hnext (p := ⟨⟨next⟩, .other content⟩) rfl
  | counterSignature xml =>
    exact hc.withUnsigned_eq hnext (p := ⟨⟨next⟩, .counterSignature xml⟩) rfl
  | signatureTimeStamp canonicalization =>
    exact hc.withUnsigned_eq hnext (p := ⟨⟨next⟩, .signatureTimeStamp canonicalization⟩) rfl
  | otherUnsigned content => exact hc.withUnsigned_eq hnext (p := ⟨⟨next⟩, .other content⟩) rfl

theorem signed_take (c : Collector) (id : InstanceId) (r : CollectorRequest) :
    (c.take id r).signed.entries = c.signed.entries ++ (r.signed? id).toList := by
  unfold take CollectorRequest.signed?
  cases r.content with
  | inl content => rfl
  | inr content => simp

theorem unsigned_take (c : Collector) (id : InstanceId) (r : CollectorRequest) :
    (c.take id r).unsigned.entries = c.unsigned.entries ++ (r.unsigned? id).toList := by
  unfold take CollectorRequest.unsigned?
  cases r.content with
  | inl content => simp
  | inr content => rfl

theorem Precedes.take (h : c.Precedes next) (r : CollectorRequest) :
    (c.take ⟨next⟩ r).Precedes (next + 1) := by
  have hsigned : ∀ p ∈ c.signed.entries, p.id.val < next + 1 := fun p hp =>
    Nat.lt_succ_of_lt (h.1 p hp)
  have hunsigned : ∀ p ∈ c.unsigned.entries, p.id.val < next + 1 := fun p hp =>
    Nat.lt_succ_of_lt (h.2 p hp)
  unfold Collector.take
  cases r.content with
  | inl content =>
    refine ⟨List.forall_mem_append.2 ⟨hsigned, ?_⟩, hunsigned⟩
    exact List.forall_mem_singleton.2 (Nat.lt_succ_self next)
  | inr content =>
    refine ⟨hsigned, List.forall_mem_append.2 ⟨hunsigned, ?_⟩⟩
    exact List.forall_mem_singleton.2 (Nat.lt_succ_self next)

theorem mem_kinds_take {k : PropertyKind} {id : InstanceId} {r : CollectorRequest} :
    k ∈ (c.take id r).kinds ↔ k = r.kind ∨ k ∈ c.kinds := by
  unfold take CollectorRequest.kind kinds
  cases r.content with
  | inl content =>
    simp only [Bag.entries_append, List.map_append, List.map_singleton, List.mem_append,
      List.mem_singleton, Sum.elim_inl]
    exact or_right_comm.trans or_comm
  | inr content =>
    simp only [Bag.entries_append, List.map_append, List.map_singleton, List.mem_append,
      List.mem_singleton, Sum.elim_inr]
    exact or_assoc.symm.trans or_comm

/-! ## Requests in a row -/

/-- The properties of the requests that are met follow those that are there. -/
theorem IsDisciplined.entries_collectAll (hc : c.IsDisciplined) (hnext : c.Precedes next)
    {earlier : List PropertyKind} (hearlier : ∀ k, k ∈ earlier ↔ k ∈ c.kinds)
    (requests : List CollectorRequest) :
    let met := CollectorRequest.metAfter earlier next requests
    (c.collectAll next requests).signed.entries =
        c.signed.entries ++ met.filterMap (fun r => r.2.signed? r.1) ∧
      (c.collectAll next requests).unsigned.entries =
        c.unsigned.entries ++ met.filterMap (fun r => r.2.unsigned? r.1) := by
  induction requests generalizing c next earlier with
  | nil => exact ⟨(List.append_nil _).symm, (List.append_nil _).symm⟩
  | cons r rest ih =>
    have hcollect := hc.collect_eq hnext r
    by_cases hrefused : r.kind.insertionPolicy = .put ∧ r.kind ∈ c.kinds
    · rw [if_pos hrefused] at hcollect
      have hnext' : c.Precedes (next + 1) :=
        ⟨fun p hp => Nat.lt_succ_of_lt (hnext.1 p hp), fun p hp => Nat.lt_succ_of_lt (hnext.2 p hp)⟩
      have hmet : CollectorRequest.metAfter earlier next (r :: rest) =
          CollectorRequest.metAfter earlier (next + 1) rest :=
        if_pos ⟨hrefused.1, (hearlier _).2 hrefused.2⟩
      simp only [Collector.collectAll, hcollect, hmet]
      exact ih hc hnext' hearlier
    · rw [if_neg hrefused] at hcollect
      have hmet : CollectorRequest.metAfter earlier next (r :: rest) =
          (⟨next⟩, r) :: CollectorRequest.metAfter (r.kind :: earlier) (next + 1) rest :=
        if_neg fun h => hrefused ⟨h.1, (hearlier _).1 h.2⟩
      have hkinds : ∀ k, k ∈ r.kind :: earlier ↔ k ∈ (c.take ⟨next⟩ r).kinds := fun k => by
        rw [List.mem_cons, hearlier, mem_kinds_take]
      obtain ⟨hsigned, hunsigned⟩ := ih (hc.collect hcollect) (hnext.take r) hkinds
      simp only [Collector.collectAll, hcollect, hmet, List.filterMap_eq_flatMap_toList,
        List.flatMap_cons] at hsigned hunsigned ⊢
      rw [hsigned, hunsigned, signed_take, unsigned_take, List.append_assoc, List.append_assoc]
      exact ⟨rfl, rfl⟩

/-- **The containers hold what was asked for**, in the order of the requests. -/
theorem entries_collectAll (next : Nat) (requests : List CollectorRequest) :
    let met := CollectorRequest.met next requests
    (collectAll {} next requests).signed.entries = met.filterMap (fun r => r.2.signed? r.1) ∧
      (collectAll {} next requests).unsigned.entries =
        met.filterMap (fun r => r.2.unsigned? r.1) := by
  have hnext : Precedes {} next := ⟨by simp, by simp⟩
  have hnone : ∀ k, k ∈ ([] : List PropertyKind) ↔ k ∈ kinds {} := fun _ => Iff.rfl
  exact isDisciplined_empty.entries_collectAll hnext hnone requests

end Collector

end AdvancedSignature
