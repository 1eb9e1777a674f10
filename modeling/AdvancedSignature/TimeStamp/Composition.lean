import AdvancedSignature.TimeStamp.DigestInput

/-!
# What each time-stamp covers

The sources of the digest input for each kind of time-stamp, in the order in which they are taken.
Finding them in a document is up to the caller.
-/

namespace AdvancedSignature

/-- What a time-stamp over the signature and the references to its validation data covers. -/
structure SigAndRefsSources (Node : Type) where
  signatureValue : Node
  /-- The signature time-stamps in document order. -/
  signatureTimeStamps : List Node := []
  completeCertificateRefs : Node
  completeRevocationRefs : Node
  attributeCertificateRefs : Option Node := none
  attributeRevocationRefs : Option Node := none

/-- What an archive time-stamp covers. -/
structure ArchiveSources (Node Reference : Type) where
  /-- The references in the order of the signed information. -/
  references : List Reference := []
  signedInfo : Node
  signatureValue : Node
  keyInfo : Option Node := none
  /-- The unsigned properties that precede the time-stamp. -/
  unsignedProperties : List Node := []
  /-- The objects, without the one that holds the qualifying properties. -/
  objects : List Node := []

/-- What a time-stamp of each kind covers. -/
inductive TimeStampSources (Node Reference : Type) where
  | signature (signatureValue : Node)
  | allDataObjects (references : List Reference)
  | individualDataObjects (included : List Reference)
  | sigAndRefs (sources : SigAndRefsSources Node)
  | archive (sources : ArchiveSources Node Reference)

namespace TimeStampSources

variable {Node Reference : Type}

/-- The sources in the order in which they are taken. -/
def inOrder : TimeStampSources Node Reference → List (DigestSource Node Reference)
  | .signature value => [.node value]
  | .allDataObjects references => references.map .reference
  | .individualDataObjects included => included.map .reference
  | .sigAndRefs s =>
      ([s.signatureValue] ++ s.signatureTimeStamps ++
        [s.completeCertificateRefs, s.completeRevocationRefs] ++
        s.attributeCertificateRefs.toList ++ s.attributeRevocationRefs.toList).map .node
  | .archive s =>
      s.references.map .reference ++
        ([s.signedInfo, s.signatureValue] ++ s.keyInfo.toList ++ s.unsignedProperties ++
          s.objects).map .node

/-- The digest input of the time-stamp. -/
def digestInput (engine : XmlEngine Node Reference) (canonicalization : Algorithm)
    (sources : TimeStampSources Node Reference) : Except Error DigestInput :=
  DigestInput.compose engine canonicalization sources.inOrder

end TimeStampSources

end AdvancedSignature
