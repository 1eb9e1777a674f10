import AdvancedSignature.Digest.Basic
import AdvancedSignature.X509.Certificate

/-!
# References and selectors

A signature refers to a certificate or a revocation list by its digest.  The names and numbers
beside the digest are informative: `CertificateReference.covers` looks at the digest alone.  A
`CertificateSelector` on the other hand finds a certificate by what it says.
-/

namespace AdvancedSignature

/-- A reference to a certificate. -/
structure CertificateReference where
  digestUri : String
  digestValue : Bytes
  issuerName : String
  serialNumber : String
  deriving DecidableEq, Repr

namespace CertificateReference

/-- The reference to a certificate.  A certificate that cannot be parsed is refused before the
algorithm is looked at. -/
def ofCertificate (c : Certificate) (digestUri : String) : Except Error CertificateReference := do
  let fields ← c.parse
  let digestValue ← digest digestUri c.der
  return {
    digestUri
    digestValue
    issuerName := fields.issuer.render
    serialNumber := Decimal.render fields.serialNumber }

/-- Whether the certificate has the digest of the reference. -/
def covers (r : CertificateReference) (c : Certificate) : Except Error Bool :=
  (digest r.digestUri c.der).map fun value => value == r.digestValue

end CertificateReference

/-- A reference to a revocation list. -/
structure RevocationListReference where
  digestUri : String
  digestValue : Bytes
  issuerName : String
  issueTime : DateTime
  deriving DecidableEq

namespace RevocationListReference

/-- The reference to a revocation list. -/
def ofRevocationList (l : RevocationList) (digestUri : String) :
    Except Error RevocationListReference := do
  let fields ← l.parse
  let digestValue ← digest digestUri l.der
  return {
    digestUri
    digestValue
    issuerName := fields.issuer.render
    issueTime := fields.thisUpdate }

/-- Whether the revocation list has the digest of the reference. -/
def covers (r : RevocationListReference) (l : RevocationList) : Except Error Bool :=
  (digest r.digestUri l.der).map fun value => value == r.digestValue

end RevocationListReference

/-- What identifies the certificate whose path is to be validated. -/
inductive CertificateSelector where
  /-- The certificate itself. -/
  | certificate (c : Certificate)
  /-- The name of its issuer and its serial number in decimal. -/
  | issuerSerial (issuer serial : String)
  /-- The name of its subject. -/
  | subjectName (subject : String)
  deriving DecidableEq, Repr

namespace CertificateSelector

/-- Whether a field was found and has the value. -/
def isField (value : String) : Except Error String → Bool
  | .ok field => field == value
  | .error _ => false

/-- Whether the certificate is the selected one.  A name or number never selects a certificate
that cannot be parsed. -/
def selects : CertificateSelector → Certificate → Bool
  | .certificate c, d => c == d
  | .issuerSerial issuer serial, d => isField issuer d.issuerName && isField serial d.serialNumber
  | .subjectName subject, d => isField subject d.subjectName

end CertificateSelector

end AdvancedSignature
