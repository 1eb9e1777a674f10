import AdvancedSignature.Property.Bag
import AdvancedSignature.TimeStamp.Basic
import AdvancedSignature.X509.Reference

/-!
# Signature-level properties

What is declared about the signature as a whole, signed (`SignedSignatureProperty`) and unsigned
(`UnsignedSignatureProperty`), each a content under an identity.  The references to certificates
and revocation lists are built here: all of a path for the signing certificate, all but the
leaf for the complete references of later forms.
-/

namespace AdvancedSignature

/-! ## Contents -/

/-- Where the signature was made. -/
structure ProductionPlace where
  city : Option String := none
  stateOrProvince : Option String := none
  postalCode : Option String := none
  countryName : Option String := none
  deriving DecidableEq, Repr

/-- The roles in which the signer signs. -/
structure SignerRole where
  claimed : List String := []
  /-- Encoded attribute certificates. -/
  certified : List Bytes := []
  deriving DecidableEq, Repr

/-- References to the signing certificate and the rest of its path, leaf first. -/
structure SigningCertificate where
  references : List CertificateReference
  deriving DecidableEq, Repr

namespace SigningCertificate

/-- References to all certificates of a path, which must not be empty. -/
def ofCertificates (certificates : List Certificate) (digestUri : String) :
    Except Error SigningCertificate :=
  if certificates.isEmpty then .error .emptyCertificateChain
  else do
    let references ← certificates.mapM fun c => CertificateReference.ofCertificate c digestUri
    return ⟨references⟩

/-- Whether the certificate is the one that signed, which the first reference covers. -/
def covers (s : SigningCertificate) (c : Certificate) : Except Error Bool :=
  match s.references with
  | r :: _ => r.covers c
  | [] => .ok false

end SigningCertificate

/-- A policy that is named. -/
structure PolicyIdentifier where
  identifier : String
  description : Option String := none
  digestUri : String
  digestValue : Bytes
  /-- Where the policy document can be fetched. -/
  locations : List String := []
  deriving DecidableEq, Repr

/-- The policy under which the signature is made. -/
inductive SignaturePolicy where
  | implied
  | identified (policy : PolicyIdentifier)
  deriving DecidableEq, Repr

namespace SignaturePolicy

/-- The policy with the digest of its document. -/
def ofDocument (identifier : String) (document : Bytes) (digestUri : String) :
    Except Error SignaturePolicy := do
  let digestValue ← digest digestUri document
  return .identified { identifier, digestUri, digestValue }

/-- The policy with one more location; an implied policy has none. -/
def withLocation (uri : String) : SignaturePolicy → SignaturePolicy
  | .implied => .implied
  | .identified p => .identified { p with locations := p.locations ++ [uri] }

/-- The policy with a description; an implied policy has none. -/
def withDescription (text : String) : SignaturePolicy → SignaturePolicy
  | .implied => .implied
  | .identified p => .identified { p with description := some text }

end SignaturePolicy

/-- A property outside the closed set of kinds: its element name and its serialized element. -/
structure OtherContent where
  elementName : String
  xml : String
  deriving DecidableEq, Repr

/-- References to the certificates of a path, without the signing certificate. -/
def completeCertificateReferences (data : ValidationData) (digestUri : String) :
    Except Error (List CertificateReference) :=
  data.issuers.mapM fun c => CertificateReference.ofCertificate c digestUri

/-- References to the revocation lists of a path. -/
def completeRevocationReferences (data : ValidationData) (digestUri : String) :
    Except Error (List RevocationListReference) :=
  data.revocationLists.mapM fun l => RevocationListReference.ofRevocationList l digestUri

/-- What a signed signature-level property says. -/
inductive SignedSignatureContent where
  | signingTime (time : DateTime)
  | productionPlace (place : ProductionPlace)
  | signerRole (role : SignerRole)
  | signingCertificate (certificate : SigningCertificate)
  | policy (policy : SignaturePolicy)
  | other (content : OtherContent)
  deriving DecidableEq

namespace SignedSignatureContent

/-- The kind of a property with this content. -/
def kind : SignedSignatureContent → PropertyKind
  | .signingTime _ => .signingTime
  | .productionPlace _ => .signatureProductionPlace
  | .signerRole _ => .signerRole
  | .signingCertificate _ => .signingCertificate
  | .policy _ => .signaturePolicy
  | .other _ => .otherSignedSignature

end SignedSignatureContent

/-- What an unsigned signature-level property says. -/
inductive UnsignedSignatureContent where
  | counterSignature (xml : String)
  | signatureTimeStamp (canonicalization : Algorithm)
  | completeCertificateRefs (references : List CertificateReference)
  | completeRevocationRefs (references : List RevocationListReference)
  | attrAuthoritiesCertValues (certificates : List Certificate)
  | attributeRevocationValues (revocationLists : List RevocationList)
  | sigAndRefsTimeStamp (canonicalization : Algorithm)
  | certificateValues (certificates : List Certificate)
  | revocationValues (revocationLists : List RevocationList)
  | archiveTimeStamp (canonicalization : Algorithm)
  | timeStampValidationData (certificates : List Certificate)
      (revocationLists : List RevocationList)
  | other (content : OtherContent)
  deriving DecidableEq

namespace UnsignedSignatureContent

/-- The kind of a property with this content. -/
def kind : UnsignedSignatureContent → PropertyKind
  | .counterSignature _ => .counterSignature
  | .signatureTimeStamp _ => .signatureTimeStamp
  | .completeCertificateRefs _ => .completeCertificateRefs
  | .completeRevocationRefs _ => .completeRevocationRefs
  | .attrAuthoritiesCertValues _ => .attrAuthoritiesCertValues
  | .attributeRevocationValues _ => .attributeRevocationValues
  | .sigAndRefsTimeStamp _ => .sigAndRefsTimeStamp
  | .certificateValues _ => .certificateValues
  | .revocationValues _ => .revocationValues
  | .archiveTimeStamp _ => .archiveTimeStamp
  | .timeStampValidationData _ _ => .timeStampValidationData
  | .other _ => .otherUnsignedSignature

/-- The time-stamp that a property with this content declares. -/
def timeStamp? : UnsignedSignatureContent → Option TimeStampDeclaration
  | .signatureTimeStamp c => some ⟨.signature, c⟩
  | .sigAndRefsTimeStamp c => some ⟨.sigAndRefs, c⟩
  | .archiveTimeStamp c => some ⟨.archive, c⟩
  | _ => none

/-- The validation material of the authorities behind earlier time-stamps. -/
def ofValidationData (data : ValidationData) : UnsignedSignatureContent :=
  .timeStampValidationData data.certificates data.revocationLists

end UnsignedSignatureContent

/-! ## Properties -/

/-- A signed signature-level property: a content under an identity. -/
structure SignedSignatureProperty where
  id : InstanceId
  content : SignedSignatureContent
  deriving DecidableEq

namespace SignedSignatureProperty

/-- The kind of the property. -/
def kind (p : SignedSignatureProperty) : PropertyKind := p.content.kind

/-- The name of the property's element. -/
def name (p : SignedSignatureProperty) : String :=
  match p.content with
  | .other o => o.elementName
  | _ => p.kind.name

instance : HasKind SignedSignatureProperty := ⟨kind⟩

end SignedSignatureProperty

/-- An unsigned signature-level property: a content under an identity. -/
structure UnsignedSignatureProperty where
  id : InstanceId
  content : UnsignedSignatureContent
  deriving DecidableEq

namespace UnsignedSignatureProperty

/-- The kind of the property. -/
def kind (p : UnsignedSignatureProperty) : PropertyKind := p.content.kind

/-- The name of the property's element. -/
def name (p : UnsignedSignatureProperty) : String :=
  match p.content with
  | .other o => o.elementName
  | _ => p.kind.name

instance : HasKind UnsignedSignatureProperty := ⟨kind⟩

end UnsignedSignatureProperty

end AdvancedSignature
