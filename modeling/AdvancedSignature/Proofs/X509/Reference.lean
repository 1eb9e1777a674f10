import AdvancedSignature.Proofs.Outcome
import AdvancedSignature.Proofs.Text.Decimal
import AdvancedSignature.X509.Reference

/-!
# What references designate

A reference is made from a certificate or a revocation list, and held against others later.

* `IsMadeFrom`: there is a reference when the encoding can be parsed and there is a digest.
* `CoversDigestOf`: it covers an encoding by its digest, and by that alone.
* `CertificateReference.Designates`: what a reference to a certificate says beyond that, and what a
  selector made from it selects.
* `references_designate`: references to certificates and to revocation lists are all that.
-/

namespace AdvancedSignature

/-! ## Digests -/

theorem digest_eq_ok_iff {uri : String} {data value : Bytes} :
    digest uri data = .ok value ↔ ∃ f, Digest.function? uri = some f ∧ f data = value := by
  unfold digest
  cases Digest.function? uri <;> simp

theorem digest_eq_ok {uri : String} {f : Bytes → Bytes} (hf : Digest.function? uri = some f)
    (data : Bytes) : digest uri data = .ok (f data) :=
  digest_eq_ok_iff.2 ⟨f, hf, rfl⟩

/-- An encoding is covered exactly if it has the digest of this one. -/
def CoversDigestOf (der : Bytes) (uri : String) (covers : Bytes → Except Error Bool) : Prop :=
  ∀ other, ∃ value value', digest uri der = .ok value ∧ digest uri other = .ok value' ∧
    covers other = .ok (decide (value' = value))

theorem coversDigestOf {der : Bytes} {uri : String} {f : Bytes → Bytes}
    (hf : Digest.function? uri = some f) :
    CoversDigestOf der uri fun other => (digest uri other).map fun value => value == f der := by
  intro other
  refine ⟨f der, f other, digest_eq_ok hf der, digest_eq_ok hf other, ?_⟩
  exact map_eq_ok_iff.2 ⟨f other, digest_eq_ok hf other, beq_eq_decide ..⟩

/-- The digest covers the encoding that it was made from. -/
theorem CoversDigestOf.self {der : Bytes} {uri : String} {covers : Bytes → Except Error Bool}
    (h : CoversDigestOf der uri covers) : covers der = .ok true := by
  obtain ⟨value, value', hvalue, hvalue', hcovers⟩ := h der
  obtain rfl : value = value' := Except.ok.inj (hvalue.symm.trans hvalue')
  rw [hcovers, decide_eq_true rfl]

/-! ## Parsing, then digesting -/

section Made

variable {α β : Type}

/-- What is made of the fields of an encoding and of its digest. -/
def makeFrom (fields : Except Error α) (uri : String) (der : Bytes) (make : α → Bytes → β) :
    Except Error β := do
  let fields ← fields
  let value ← digest uri der
  return make fields value

/-- It is made when the encoding can be parsed and there is a digest for the URI.  That it cannot
be parsed is found first. -/
structure IsMadeFrom (fields : Except Error α) (uri : String) (der : Bytes)
    (made : Except Error β) : Prop where
  exists_iff : (∃ b, made = .ok b) ↔ (∃ a, fields = .ok a) ∧ Digest.isSupported uri = true
  error_iff : ∀ e, made = .error e ↔
    fields = .error e ∨ (∃ a, fields = .ok a) ∧ digest uri der = .error e

variable {fields : Except Error α} {uri : String} {der : Bytes} {make : α → Bytes → β}

theorem makeFrom_eq_ok_iff {b : β} :
    makeFrom fields uri der make = .ok b ↔
      ∃ a f, fields = .ok a ∧ Digest.function? uri = some f ∧ make a (f der) = b := by
  simp only [makeFrom, bind_eq_ok_iff, digest_eq_ok_iff]
  constructor
  · rintro ⟨a, ha, _, ⟨f, hf, rfl⟩, h⟩
    exact ⟨a, f, ha, hf, Except.ok.inj h⟩
  · rintro ⟨a, f, ha, hf, rfl⟩
    exact ⟨a, ha, f der, ⟨f, hf, rfl⟩, rfl⟩

theorem isMadeFrom_makeFrom (fields : Except Error α) (uri : String) (der : Bytes)
    (make : α → Bytes → β) : IsMadeFrom fields uri der (makeFrom fields uri der make) where
  exists_iff := by
    simp only [makeFrom_eq_ok_iff, Digest.isSupported, Option.isSome_iff_exists]
    constructor
    · rintro ⟨_, a, f, ha, hf, -⟩
      exact ⟨⟨a, ha⟩, f, hf⟩
    · rintro ⟨⟨a, ha⟩, f, hf⟩
      exact ⟨_, a, f, ha, hf, rfl⟩
  error_iff e := by
    simp only [makeFrom, bind_eq_error_iff]
    refine or_congr_right ⟨?_, ?_⟩
    · rintro ⟨a, ha, h | ⟨_, _, h⟩⟩
      · exact ⟨⟨a, ha⟩, h⟩
      · cases h
    · rintro ⟨⟨a, ha⟩, h⟩
      exact ⟨a, ha, Or.inl h⟩

end Made

/-! ## References to certificates -/

namespace Certificate

theorem issuerName_eq_ok_iff {c : Certificate} {issuer : String} :
    c.issuerName = .ok issuer ↔ ∃ fields, c.parse = .ok fields ∧ fields.issuer.render = issuer :=
  map_eq_ok_iff

theorem serialNumber_eq_ok_iff {c : Certificate} {serial : String} :
    c.serialNumber = .ok serial ↔
      ∃ fields, c.parse = .ok fields ∧ Decimal.render fields.serialNumber = serial :=
  map_eq_ok_iff

end Certificate

namespace CertificateSelector

theorem isField_eq_true_iff {value : String} {field : Except Error String} :
    isField value field = true ↔ field = .ok value := by
  cases field <;> simp [isField]

/-- A name and a number select a certificate exactly if it can be parsed and has both. -/
theorem selects_issuerSerial_iff {issuer serial : String} {c : Certificate} :
    (issuerSerial issuer serial).selects c = true ↔
      ∃ fields, c.parse = .ok fields ∧ fields.issuer.render = issuer ∧
        Decimal.render fields.serialNumber = serial := by
  rw [selects, Bool.and_eq_true, isField_eq_true_iff, isField_eq_true_iff,
    Certificate.issuerName_eq_ok_iff, Certificate.serialNumber_eq_ok_iff]
  constructor
  · rintro ⟨⟨fields, hparse, hissuer⟩, fields', hparse', hserial⟩
    obtain rfl : fields = fields' := Except.ok.inj (hparse.symm.trans hparse')
    exact ⟨fields, hparse, hissuer, hserial⟩
  · rintro ⟨fields, hparse, hissuer, hserial⟩
    exact ⟨⟨fields, hparse, hissuer⟩, fields, hparse, hserial⟩

end CertificateSelector

namespace CertificateReference

variable {c : Certificate} {uri : String} {r : CertificateReference}

theorem ofCertificate_eq (c : Certificate) (uri : String) :
    ofCertificate c uri = makeFrom c.parse uri c.der fun fields value =>
      ⟨uri, value, fields.issuer.render, Decimal.render fields.serialNumber⟩ := rfl

theorem isMadeFrom_ofCertificate (c : Certificate) (uri : String) :
    IsMadeFrom c.parse uri c.der (ofCertificate c uri) := by
  rw [ofCertificate_eq]
  exact isMadeFrom_makeFrom ..

/-- What a reference says of certificates when it was made from this one. -/
structure Designates (r : CertificateReference) (c : Certificate) (uri : String) : Prop where
  /-- It covers by the digest alone, whatever name and number stand beside it. -/
  covers : ∀ issuerName serialNumber, CoversDigestOf c.der uri fun der =>
    { r with issuerName, serialNumber }.covers ⟨der⟩
  covers_self : r.covers c = .ok true
  issuerName : c.issuerName = .ok r.issuerName
  serialNumber : c.serialNumber = .ok r.serialNumber
  /-- The name and the number select the certificates with the same text for the issuer and the
  same value for the serial number. -/
  selects : ∀ d, (CertificateSelector.issuerSerial r.issuerName r.serialNumber).selects d = true ↔
    ∃ fields fields', c.parse = .ok fields ∧ d.parse = .ok fields' ∧
      fields'.issuer.render = fields.issuer.render ∧
      fields'.serialNumber.toNat = fields.serialNumber.toNat
  selects_self : (CertificateSelector.issuerSerial r.issuerName r.serialNumber).selects c = true

theorem designates_of_ofCertificate (h : ofCertificate c uri = .ok r) : r.Designates c uri := by
  rw [ofCertificate_eq] at h
  obtain ⟨fields, f, hparse, hf, rfl⟩ := makeFrom_eq_ok_iff.1 h
  have hcovers : CoversDigestOf c.der uri fun der => (digest uri der).map (· == f c.der) :=
    coversDigestOf hf
  have hselects (d : Certificate) :
      (CertificateSelector.issuerSerial fields.issuer.render
          (Decimal.render fields.serialNumber)).selects d = true ↔
        ∃ fields₁ fields₂, c.parse = .ok fields₁ ∧ d.parse = .ok fields₂ ∧
          fields₂.issuer.render = fields₁.issuer.render ∧
          fields₂.serialNumber.toNat = fields₁.serialNumber.toNat := by
    -- two numbers have one text exactly if they are the same
    simp only [CertificateSelector.selects_issuerSerial_iff, Decimal.render_eq_render_iff]
    constructor
    · rintro ⟨fields', hparse', hissuer, hserial⟩
      exact ⟨fields, fields', hparse, hparse', hissuer, hserial⟩
    · rintro ⟨fields₁, fields', hparse₁, hparse', hissuer, hserial⟩
      obtain rfl : fields = fields₁ := Except.ok.inj (hparse.symm.trans hparse₁)
      exact ⟨fields', hparse', hissuer, hserial⟩
  exact
    { covers := fun _ _ => hcovers
      covers_self := hcovers.self
      issuerName := Certificate.issuerName_eq_ok_iff.2 ⟨fields, hparse, rfl⟩
      serialNumber := Certificate.serialNumber_eq_ok_iff.2 ⟨fields, hparse, rfl⟩
      selects := hselects
      selects_self := (hselects c).2 ⟨fields, fields, hparse, hparse, rfl, rfl⟩ }

end CertificateReference

/-! ## References to revocation lists -/

namespace RevocationListReference

variable {l : RevocationList} {uri : String} {r : RevocationListReference}

theorem ofRevocationList_eq (l : RevocationList) (uri : String) :
    ofRevocationList l uri = makeFrom l.parse uri l.der fun fields value =>
      ⟨uri, value, fields.issuer.render, fields.thisUpdate⟩ := rfl

theorem isMadeFrom_ofRevocationList (l : RevocationList) (uri : String) :
    IsMadeFrom l.parse uri l.der (ofRevocationList l uri) := by
  rw [ofRevocationList_eq]
  exact isMadeFrom_makeFrom ..

theorem coversDigestOf_of_ofRevocationList (h : ofRevocationList l uri = .ok r)
    (issuerName : String) (issueTime : DateTime) :
    CoversDigestOf l.der uri fun der => { r with issuerName, issueTime }.covers ⟨der⟩ := by
  rw [ofRevocationList_eq] at h
  obtain ⟨fields, f, -, hf, rfl⟩ := makeFrom_eq_ok_iff.1 h
  exact coversDigestOf hf

end RevocationListReference

/-- **A reference designates what it was made from.**  There is one exactly if the encoding can be
parsed and the digest is known, and that it cannot be parsed is reported first.  A reference to a
certificate covers the certificates with its digest, and no name or number beside the digest
counts; these are the issuer and the serial number of the certificate, and they select the
certificates with that issuer and that serial number.  A reference to a revocation list covers by
its digest in the same way. -/
theorem references_designate (c : Certificate) (l : RevocationList) (uri : String) :
    (IsMadeFrom c.parse uri c.der (CertificateReference.ofCertificate c uri) ∧
      ∀ r, CertificateReference.ofCertificate c uri = .ok r → r.Designates c uri) ∧
    (IsMadeFrom l.parse uri l.der (RevocationListReference.ofRevocationList l uri) ∧
      ∀ r, RevocationListReference.ofRevocationList l uri = .ok r →
        (∀ issuerName issueTime, CoversDigestOf l.der uri fun der =>
          { r with issuerName, issueTime }.covers ⟨der⟩) ∧ r.covers l = .ok true) := by
  refine ⟨⟨CertificateReference.isMadeFrom_ofCertificate c uri,
      fun r hr => CertificateReference.designates_of_ofCertificate hr⟩,
    RevocationListReference.isMadeFrom_ofRevocationList l uri, fun r hr => ?_⟩
  have hcovers := RevocationListReference.coversDigestOf_of_ofRevocationList hr
  exact ⟨hcovers, (hcovers r.issuerName r.issueTime).self⟩

/-! ## Plain encodings -/

namespace X509

open Der

/-- The name whose only part is the common name `A`. -/
def plainName : Name := ⟨[[⟨⟨[0x55, 0x04, 0x03]⟩, ⟨Tag.utf8String, [0x41]⟩⟩]]⟩

/-- The name as it is encoded. -/
def plainNameBytes : Bytes :=
  Element.write ⟨Tag.sequence, plainName.parts.flatMap fun part =>
    Element.write ⟨Tag.set, part.flatMap NameAttribute.write⟩⟩

/-- The algorithm 1.2.3.4. -/
def plainAlgorithm : Bytes :=
  Element.write ⟨Tag.sequence, Element.write ⟨Tag.objectIdentifier, [0x2a, 0x03, 0x04]⟩⟩

/-- The first second of the year 2024. -/
def plainTime : Bytes :=
  Element.write ⟨Tag.utcTime,
    [0x32, 0x34, 0x30, 0x31, 0x30, 0x31, 0x30, 0x30, 0x30, 0x30, 0x30, 0x30, 0x5a]⟩

/-- What is signed, with an algorithm and an empty signature. -/
def plainSigned (body : Bytes) : Bytes :=
  Element.write ⟨Tag.sequence,
    Element.write ⟨Tag.sequence, body⟩ ++ plainAlgorithm ++ Element.write ⟨Tag.bitString, [0x00]⟩⟩

/-- A certificate that says no more than it must. -/
def plainCertificate (serialNumber : Bytes) : Certificate :=
  ⟨plainSigned <| Element.write ⟨Tag.integer, serialNumber⟩ ++ plainAlgorithm ++ plainNameBytes ++
    Element.write ⟨Tag.sequence, plainTime ++ plainTime⟩ ++ plainNameBytes ++
    Element.write ⟨Tag.sequence, plainAlgorithm ++ Element.write ⟨Tag.bitString, [0x00]⟩⟩⟩

/-- A revocation list that says no more than it must, of a version. -/
def plainRevocationList (version : UInt8) : RevocationList :=
  ⟨plainSigned <| Element.write ⟨Tag.integer, [version]⟩ ++ plainAlgorithm ++ plainNameBytes ++
    plainTime⟩

end X509

/-- Two certificates of one issuer, whose serial numbers are 255 with and without a leading zero:
the name and the number of the one select the other as well.  And a revocation list. -/
theorem references_designate_of_plain :
    let c := X509.plainCertificate [0x00, 0xff]
    let d := X509.plainCertificate [0xff]
    let l := X509.plainRevocationList 1
    (∃ r, CertificateReference.ofCertificate c Algorithm.sha256 = .ok r ∧
      r.Designates c Algorithm.sha256 ∧ r.covers c = .ok true ∧ r.serialNumber = "255" ∧
      (CertificateSelector.issuerSerial r.issuerName r.serialNumber).selects d = true) ∧
    ∃ r, RevocationListReference.ofRevocationList l Algorithm.sha256 = .ok r ∧
      r.covers l = .ok true := by
  intro c d l
  have hc : (c.parse.map fun f => (f.issuer, f.serialNumber)) =
      .ok (X509.plainName, [0x00, 0xff]) := rfl
  have hd : (d.parse.map fun f => (f.issuer, f.serialNumber)) =
      .ok (X509.plainName, [0xff]) := rfl
  have hl : (l.parse.map fun f => f.issuer) = .ok X509.plainName := rfl
  have hsupported : Digest.isSupported Algorithm.sha256 = true := by decide +kernel
  -- the encodings are not to be looked into any more
  clear_value c d l
  obtain ⟨fields, hparse, hfields⟩ := map_eq_ok_iff.1 hc
  obtain ⟨fields', hparse', hfields'⟩ := map_eq_ok_iff.1 hd
  obtain ⟨list, hlist, -⟩ := map_eq_ok_iff.1 hl
  obtain ⟨hissuer, hserial⟩ := Prod.mk.inj hfields
  obtain ⟨hissuer', hserial'⟩ := Prod.mk.inj hfields'
  obtain ⟨⟨hmade, hdesignates⟩, hmade', hcovers⟩ := references_designate c l Algorithm.sha256
  obtain ⟨r, hr⟩ := hmade.exists_iff.2 ⟨⟨fields, hparse⟩, hsupported⟩
  obtain ⟨r', hr'⟩ := hmade'.exists_iff.2 ⟨⟨list, hlist⟩, hsupported⟩
  have hr_of := hdesignates r hr
  refine ⟨⟨r, hr, hr_of, hr_of.covers_self, ?_, ?_⟩, r', hr', (hcovers r' hr').2⟩
  · have hnumber : c.serialNumber = .ok "255" :=
      Certificate.serialNumber_eq_ok_iff.2 ⟨fields, hparse, by rw [hserial]; decide +kernel⟩
    exact Except.ok.inj (hr_of.serialNumber.symm.trans hnumber)
  · refine (hr_of.selects d).2 ⟨fields, fields', hparse, hparse', ?_, ?_⟩
    · rw [hissuer, hissuer']
    · rw [hserial, hserial']
      rfl

end AdvancedSignature
