import AdvancedSignature.Proofs.Outcome
import AdvancedSignature.Proofs.Property.Bag
import AdvancedSignature.QualifyingProperties

/-!
# The discipline of signature-level properties

Whatever is collected, assembled and added later, the signature-level containers stay disciplined:
nothing is there twice, and of a kind that is put there is one property
(`QualifyingProperties.IsDisciplined`).
-/

namespace AdvancedSignature

/-! ## Collecting -/

namespace Collector

/-- Both containers are disciplined. -/
structure IsDisciplined (c : Collector) : Prop where
  signed : c.signed.IsDisciplined
  unsigned : c.unsigned.IsDisciplined

variable {c c' : Collector}

theorem isDisciplined_empty : IsDisciplined {} := ⟨Bag.isDisciplined_empty, Bag.isDisciplined_empty⟩

theorem IsDisciplined.withSigned (hc : c.IsDisciplined) {p : SignedSignatureProperty}
    (h : c.withSigned (c.signed.putOrAdd p) = .ok c') : c'.IsDisciplined := by
  obtain ⟨bag, hbag, rfl⟩ := map_eq_ok_iff.1 h
  exact ⟨hc.signed.putOrAdd hbag, hc.unsigned⟩

theorem IsDisciplined.withUnsigned (hc : c.IsDisciplined) {p : UnsignedSignatureProperty}
    (h : c.withUnsigned (c.unsigned.putOrAdd p) = .ok c') : c'.IsDisciplined := by
  obtain ⟨bag, hbag, rfl⟩ := map_eq_ok_iff.1 h
  exact ⟨hc.signed, hc.unsigned.putOrAdd hbag⟩

/-- A request puts or adds as the kind of its property demands. -/
theorem IsDisciplined.collect (hc : c.IsDisciplined) {fresh : InstanceId} {r : CollectorRequest}
    (h : c.collect fresh r = .ok c') : c'.IsDisciplined := by
  cases r with
  | signingTime time => exact hc.withSigned (p := ⟨fresh, .signingTime time⟩) h
  | productionPlace place => exact hc.withSigned (p := ⟨fresh, .productionPlace place⟩) h
  | signerRole role => exact hc.withSigned (p := ⟨fresh, .signerRole role⟩) h
  | otherSigned content => exact hc.withSigned (p := ⟨fresh, .other content⟩) h
  | counterSignature xml => exact hc.withUnsigned (p := ⟨fresh, .counterSignature xml⟩) h
  | signatureTimeStamp canonicalization =>
    exact hc.withUnsigned (p := ⟨fresh, .signatureTimeStamp canonicalization⟩) h
  | otherUnsigned content => exact hc.withUnsigned (p := ⟨fresh, .other content⟩) h

theorem IsDisciplined.collectAll (hc : c.IsDisciplined) (next : Nat)
    (requests : List CollectorRequest) : (c.collectAll next requests).IsDisciplined := by
  induction requests generalizing c next with
  | nil => exact hc
  | cons r rest ih =>
    rw [Collector.collectAll]
    cases hcollect : c.collect ⟨next⟩ r with
    | ok c' => exact ih (hc.collect hcollect) (next + 1)
    | error e => exact ih hc (next + 1)

end Collector

/-! ## Adding -/

namespace QualifyingProperties

/-- The signature-level containers are disciplined. -/
structure IsDisciplined (q : QualifyingProperties) : Prop where
  signedSignature : q.signedSignature.IsDisciplined
  unsignedSignature : q.unsignedSignature.IsDisciplined

/-- Adds what it can: a refused property leaves the others as they are. -/
def addEach (q : QualifyingProperties) (ps : List QualifyingProperty) : QualifyingProperties :=
  ps.foldl (fun q p => match q.add p with | .ok q => q | .error _ => q) q

variable {q q' : QualifyingProperties}

theorem isDisciplined_empty : IsDisciplined {} := ⟨Bag.isDisciplined_empty, Bag.isDisciplined_empty⟩

theorem IsDisciplined.addSignedSignature (hq : q.IsDisciplined) {p : SignedSignatureProperty}
    (h : q.addSignedSignature p = .ok q') : q'.IsDisciplined := by
  obtain ⟨bag, hbag, rfl⟩ := map_eq_ok_iff.1 h
  exact ⟨hq.signedSignature.putOrAdd hbag, hq.unsignedSignature⟩

theorem IsDisciplined.add (hq : q.IsDisciplined) {p : QualifyingProperty}
    (h : q.add p = .ok q') : q'.IsDisciplined := by
  cases p with
  | signedSignature p => exact hq.addSignedSignature h
  | unsignedSignature p =>
    obtain ⟨bag, hbag, rfl⟩ := map_eq_ok_iff.1 h
    exact ⟨hq.signedSignature, hq.unsignedSignature.putOrAdd hbag⟩
  | signedDataObject p | unsignedDataObject p =>
    obtain ⟨list, -, rfl⟩ := map_eq_ok_iff.1 h
    exact ⟨hq.signedSignature, hq.unsignedSignature⟩

theorem IsDisciplined.addEach (hq : q.IsDisciplined) (ps : List QualifyingProperty) :
    (q.addEach ps).IsDisciplined := by
  unfold QualifyingProperties.addEach
  induction ps generalizing q with
  | nil => exact hq
  | cons p rest ih =>
    rw [List.foldl_cons]
    cases hadd : q.add p with
    | ok q' => exact ih (hq.add hadd)
    | error e => exact ih hq

/-- A signature-level property leaves the data-object properties alone. -/
theorem add_dataObjects {p : QualifyingProperty} (hp : p.container.isSignatureLevel = true)
    (h : q.add p = .ok q') :
    q'.signedDataObjects = q.signedDataObjects ∧
      q'.unsignedDataObjects = q.unsignedDataObjects := by
  cases p with
  | signedSignature p | unsignedSignature p =>
    obtain ⟨bag, -, rfl⟩ := map_eq_ok_iff.1 h
    exact ⟨rfl, rfl⟩
  | signedDataObject p | unsignedDataObject p => cases hp

theorem addEach_dataObjects {ps : List QualifyingProperty}
    (hps : ∀ p ∈ ps, p.container.isSignatureLevel = true) :
    (q.addEach ps).signedDataObjects = q.signedDataObjects ∧
      (q.addEach ps).unsignedDataObjects = q.unsignedDataObjects := by
  unfold addEach
  induction ps generalizing q with
  | nil => exact ⟨rfl, rfl⟩
  | cons p rest ih =>
    obtain ⟨hp, hrest⟩ := List.forall_mem_cons.1 hps
    rw [List.foldl_cons]
    cases hadd : q.add p with
    | ok q' =>
      obtain ⟨hsigned, hunsigned⟩ := add_dataObjects hp hadd
      obtain ⟨hsigned', hunsigned'⟩ := ih (q := q') hrest
      exact ⟨hsigned'.trans hsigned, hunsigned'.trans hunsigned⟩
    | error e => exact ih hrest

/-! ## Assembling -/

theorem IsDisciplined.foldlM_addSignedSignature (hq : q.IsDisciplined)
    {ps : List SignedSignatureProperty}
    (h : ps.foldlM QualifyingProperties.addSignedSignature q = .ok q') : q'.IsDisciplined :=
  of_foldlM_eq_ok (fun _ _ _ hq => hq.addSignedSignature) hq h

/-- What is assembled is disciplined, and its data-object properties are those of the data
objects, whose targets have been checked. -/
theorem of_assemble {collector : Collector} (hcollector : collector.IsDisciplined)
    {objects : SignedDataObjects} {table : TargetTable} {id : InstanceId}
    {certificate : SigningCertificate} {policy : Option SignaturePolicy}
    (h : assemble collector objects table id certificate policy = .ok q) :
    q.IsDisciplined ∧ objects.checkTargets table = .ok () ∧
      q.signedDataObjects = objects.signedProperties ∧
        q.unsignedDataObjects = objects.unsignedProperties := by
  obtain ⟨_, htargets, h⟩ := bind_eq_ok_iff.1 h
  obtain ⟨q₁, hfold, h⟩ := bind_eq_ok_iff.1 h
  cases h
  have hq₁ := isDisciplined_empty.foldlM_addSignedSignature hfold
  exact ⟨⟨hq₁.signedSignature, hcollector.unsigned⟩, htargets, rfl, rfl⟩

end QualifyingProperties

end AdvancedSignature
