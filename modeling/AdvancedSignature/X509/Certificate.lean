import AdvancedSignature.DateTime
import AdvancedSignature.Error
import AdvancedSignature.Text.Base64
import AdvancedSignature.Text.Blank
import AdvancedSignature.Text.Decimal
import AdvancedSignature.X509.Name

/-!
# Certificates and revocation lists

Both are carried as the bytes of their encoding and only taken apart when a field is asked for.
Two are the same when their bytes are.  Signatures on them are not checked here.
-/

namespace AdvancedSignature

open Der

namespace X509

/-! ## Times -/

/-- The value of a list of decimal digits. -/
def decimal? (digits : Bytes) : Option Nat :=
  digits.foldlM (fun n b => if 48 ≤ b ∧ b ≤ 57 then some (n * 10 + (b.toNat - 48)) else none) 0

/-- The time of a content: two or four digits for the year, two for each other field, and a `Z`.
Two digits mean a year from 1950 to 2049. -/
def time? (yearDigits : Nat) (content : Bytes) : Option DateTime := do
  if content.length = yearDigits + 11 ∧ content.getLast? = some 90 then
    let year ← decimal? (content.take yearDigits)
    let part := fun i => decimal? ((content.drop (yearDigits + 2 * i)).take 2)
    let month ← part 0
    let day ← part 1
    let hour ← part 2
    let minute ← part 3
    let second ← part 4
    let year :=
      if yearDigits = 2 then (if year < 50 then 2000 + year else 1900 + year) else year
    DateTime.ofFields? year month day hour minute second
  else none

/-- Reads a time in either form. -/
def timeReader : Reader DateTime := do
  let e ← Reader.element
  if e.tag = Tag.utcTime then Reader.ofOption (time? 2 e.content)
  else if e.tag = Tag.generalizedTime then Reader.ofOption (time? 4 e.content)
  else Reader.fail

/-! ## Parts that certificates and revocation lists share -/

/-- Reads an algorithm: a type and at most one parameter, whatever it is. -/
def algorithmReader : Reader ObjectIdentifier :=
  Reader.inside Tag.sequence do
    let oid ← ObjectIdentifier.reader
    let rest ← get
    if rest.isEmpty then return oid
    let _ ← Reader.element
    return oid

/-- Reads a serial number of at most 21 bytes. -/
def serialReader : Reader Bytes := do
  let bytes ← Reader.integer
  if bytes.length ≤ 21 then return bytes else Reader.fail

/-- Reads an extension. -/
def extensionReader : Reader Unit :=
  Reader.inside Tag.sequence do
    let _ ← ObjectIdentifier.reader
    let _ ← Reader.optional [Tag.boolean] Reader.boolean
    let _ ← Reader.content Tag.octetString

/-- Reads a list of extensions. -/
def extensionsReader : Reader Unit := do
  let _ ← Reader.listInside Tag.sequence extensionReader

/-- The fields of a certificate that this library uses. -/
structure CertificateFields where
  serialNumber : Bytes
  issuer : Name
  notBefore : DateTime
  notAfter : DateTime
  subject : Name
  keyAlgorithm : ObjectIdentifier

/-- Reads the signed part of a certificate. -/
def certificateBodyReader : Reader CertificateFields :=
  Reader.inside Tag.sequence do
    let _ ← Reader.explicitField 0 (Reader.smallInteger 2)
    let serialNumber ← serialReader
    let _ ← algorithmReader
    let issuer ← Name.reader
    let (notBefore, notAfter) ← Reader.inside Tag.sequence do
      let notBefore ← timeReader
      let notAfter ← timeReader
      return (notBefore, notAfter)
    let subject ← Name.reader
    let keyAlgorithm ← Reader.inside Tag.sequence do
      let oid ← algorithmReader
      let _ ← Reader.bitString Tag.bitString
      return oid
    let _ ← Reader.field 1 (Reader.bitString (Tag.contextPrimitive 1))
    let _ ← Reader.field 2 (Reader.bitString (Tag.contextPrimitive 2))
    let _ ← Reader.explicitField 3 extensionsReader
    return { serialNumber, issuer, notBefore, notAfter, subject, keyAlgorithm }

/-- Reads the signed part `body` with the algorithm and the value of its signature. -/
def signedReader {α : Type} (body : Reader α) : Reader α :=
  Reader.inside Tag.sequence do
    let value ← body
    let _ ← algorithmReader
    let _ ← Reader.bitString Tag.bitString
    return value

/-- The fields of a revocation list that this library uses. -/
structure RevocationListFields where
  issuer : Name
  thisUpdate : DateTime

/-- Reads one revoked certificate. -/
def revokedReader : Reader Unit :=
  Reader.inside Tag.sequence do
    let _ ← serialReader
    let _ ← timeReader
    let _ ← Reader.optional [Tag.sequence] extensionsReader

/-- Reads the signed part of a revocation list. -/
def revocationListBodyReader : Reader RevocationListFields :=
  Reader.inside Tag.sequence do
    let _ ← Reader.smallInteger 2
    let _ ← algorithmReader
    let issuer ← Name.reader
    let thisUpdate ← timeReader
    let _ ← Reader.optional [Tag.utcTime, Tag.generalizedTime] timeReader
    let _ ← Reader.optional [Tag.sequence] (Reader.listInside Tag.sequence revokedReader)
    let _ ← Reader.explicitField 0 extensionsReader
    return { issuer, thisUpdate }

/-- The bytes that a base64 text stands for; white space in it does not count. -/
def ofBase64 (text : String) : Except Error Bytes :=
  match Base64.decode (text.toList.filter fun c => !Blank.isBlank c) with
  | some bytes => .ok bytes
  | none => .error (.base64 "decode error")

end X509

/-- A certificate, by its encoding. -/
structure Certificate where
  der : Bytes
  deriving DecidableEq, Repr

namespace Certificate

/-- The certificate that a base64 text stands for. -/
def ofBase64 (text : String) : Except Error Certificate := (X509.ofBase64 text).map Certificate.mk

/-- The fields of the certificate. -/
def parse (c : Certificate) : Except Error X509.CertificateFields :=
  match Reader.complete (X509.signedReader X509.certificateBodyReader) c.der with
  | some fields => .ok fields
  | none => .error (.certificate "failed to parse certificate")

/-- The distinguished name of the issuer. -/
def issuerName (c : Certificate) : Except Error String := c.parse.map fun f => f.issuer.render

/-- The distinguished name of the subject. -/
def subjectName (c : Certificate) : Except Error String := c.parse.map fun f => f.subject.render

/-- The serial number in decimal; its bytes are taken as an unsigned number. -/
def serialNumber (c : Certificate) : Except Error String :=
  c.parse.map fun f => Decimal.render f.serialNumber

/-- The type of the subject's public key, in dotted decimal. -/
def keyAlgorithmOid (c : Certificate) : Except Error String :=
  c.parse.map fun f => f.keyAlgorithm.dotted

end Certificate

/-- A certificate revocation list, by its encoding. -/
structure RevocationList where
  der : Bytes
  deriving DecidableEq, Repr

namespace RevocationList

/-- The revocation list that a base64 text stands for. -/
def ofBase64 (text : String) : Except Error RevocationList :=
  (X509.ofBase64 text).map RevocationList.mk

/-- The fields of the revocation list. -/
def parse (l : RevocationList) : Except Error X509.RevocationListFields :=
  match Reader.complete (X509.signedReader X509.revocationListBodyReader) l.der with
  | some fields => .ok fields
  | none => .error (.certificate "failed to parse CRL")

end RevocationList

end AdvancedSignature
