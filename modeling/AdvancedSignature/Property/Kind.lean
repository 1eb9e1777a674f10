/-!
# Property kinds

The closed set of qualifying properties of an advanced electronic signature.  Everything a
container needs to know about a property is derived from its kind:

* `PropertyGroup`, the four containers, and `PropertyKind.group`;
* `InsertionPolicy`, whether a container holds one property of the kind or any number;
* `Multiplicity`, how many data objects one property may target;
* the element names of the kinds, with `PropertyKind.ofElementName?` as the way back.
-/

namespace AdvancedSignature

/-- The four containers a qualifying property can live in. -/
inductive PropertyGroup where
  | signedSignature
  | unsignedSignature
  | signedDataObject
  | unsignedDataObject
  deriving DecidableEq, Repr

/-- How a container accepts a property: as the only one of its kind, or beside others. -/
inductive InsertionPolicy where
  | put
  | add
  deriving DecidableEq, Repr

/-- How many data objects one data-object property may target. -/
inductive Multiplicity where
  /-- Every data object, implicitly; never one in particular. -/
  | all
  /-- Exactly one data object. -/
  | one
  /-- One or more distinct data objects. -/
  | many
  deriving DecidableEq, Repr

/-- The kinds of qualifying properties. -/
inductive PropertyKind where
  | signingTime
  | signatureProductionPlace
  | signerRole
  | signingCertificate
  | signaturePolicy
  | otherSignedSignature
  | counterSignature
  | signatureTimeStamp
  | completeCertificateRefs
  | completeRevocationRefs
  | attrAuthoritiesCertValues
  | attributeRevocationValues
  | sigAndRefsTimeStamp
  | certificateValues
  | revocationValues
  | archiveTimeStamp
  | timeStampValidationData
  | otherUnsignedSignature
  | dataObjectFormat
  | commitmentType
  | allDataObjectsCommitmentType
  | individualDataObjectsTimeStamp
  | allDataObjectsTimeStamp
  | otherSignedDataObject
  | otherUnsignedDataObject
  deriving DecidableEq, Repr

namespace PropertyGroup

/-- The four groups, signed before unsigned at each level. -/
def values : List PropertyGroup :=
  [.signedSignature, .unsignedSignature, .signedDataObject, .unsignedDataObject]

/-- Whether the signature value covers the properties of the group. -/
def isSigned : PropertyGroup → Bool
  | .signedSignature | .signedDataObject => true
  | .unsignedSignature | .unsignedDataObject => false

/-- Whether the properties of the group describe the signature itself. -/
def isSignatureLevel : PropertyGroup → Bool
  | .signedSignature | .unsignedSignature => true
  | .signedDataObject | .unsignedDataObject => false

/-- The name of the group. -/
def name : PropertyGroup → String
  | .signedSignature => "SignedSignature"
  | .unsignedSignature => "UnsignedSignature"
  | .signedDataObject => "SignedDataObject"
  | .unsignedDataObject => "UnsignedDataObject"

/-- The group with the given name. -/
def ofName? (s : String) : Option PropertyGroup := values.find? fun g => g.name == s

/-- The local name of the element that holds the properties of the group. -/
def containerName : PropertyGroup → String
  | .signedSignature => "SignedSignatureProperties"
  | .unsignedSignature => "UnsignedSignatureProperties"
  | .signedDataObject => "SignedDataObjectProperties"
  | .unsignedDataObject => "UnsignedDataObjectProperties"

/-- The catch-all kind of the group. -/
def otherKind : PropertyGroup → PropertyKind
  | .signedSignature => .otherSignedSignature
  | .unsignedSignature => .otherUnsignedSignature
  | .signedDataObject => .otherSignedDataObject
  | .unsignedDataObject => .otherUnsignedDataObject

end PropertyGroup

namespace InsertionPolicy

/-- The name of the policy. -/
def name : InsertionPolicy → String
  | .put => "Put"
  | .add => "Add"

end InsertionPolicy

namespace Multiplicity

/-- The three multiplicities. -/
def values : List Multiplicity := [.all, .one, .many]

/-- The name of the multiplicity. -/
def name : Multiplicity → String
  | .all => "ALL"
  | .one => "ONE"
  | .many => "N"

/-- The multiplicity with the given name. -/
def ofName? (s : String) : Option Multiplicity := values.find? fun m => m.name == s

/-- The most targets that can be given one by one, `none` when there is no bound. -/
def cap : Multiplicity → Option Nat
  | .all => some 0
  | .one => some 1
  | .many => none

end Multiplicity

namespace PropertyKind

/-- Every kind, signature level first and signed before unsigned. -/
def values : List PropertyKind :=
  [.signingTime, .signatureProductionPlace, .signerRole, .signingCertificate, .signaturePolicy,
    .otherSignedSignature, .counterSignature, .signatureTimeStamp, .completeCertificateRefs,
    .completeRevocationRefs, .attrAuthoritiesCertValues, .attributeRevocationValues,
    .sigAndRefsTimeStamp, .certificateValues, .revocationValues, .archiveTimeStamp,
    .timeStampValidationData, .otherUnsignedSignature, .dataObjectFormat, .commitmentType,
    .allDataObjectsCommitmentType, .individualDataObjectsTimeStamp, .allDataObjectsTimeStamp,
    .otherSignedDataObject, .otherUnsignedDataObject]

/-- The name of the kind. -/
def name : PropertyKind → String
  | .signingTime => "SigningTime"
  | .signatureProductionPlace => "SignatureProductionPlace"
  | .signerRole => "SignerRole"
  | .signingCertificate => "SigningCertificate"
  | .signaturePolicy => "SignaturePolicy"
  | .otherSignedSignature => "OtherSignedSignatureProperty"
  | .counterSignature => "CounterSignature"
  | .signatureTimeStamp => "SignatureTimeStamp"
  | .completeCertificateRefs => "CompleteCertificateRefs"
  | .completeRevocationRefs => "CompleteRevocationRefs"
  | .attrAuthoritiesCertValues => "AttrAuthoritiesCertValues"
  | .attributeRevocationValues => "AttributeRevocationValues"
  | .sigAndRefsTimeStamp => "SigAndRefsTimeStamp"
  | .certificateValues => "CertificateValues"
  | .revocationValues => "RevocationValues"
  | .archiveTimeStamp => "ArchiveTimeStamp"
  | .timeStampValidationData => "TimeStampValidationData"
  | .otherUnsignedSignature => "OtherUnsignedSignatureProperty"
  | .dataObjectFormat => "DataObjectFormat"
  | .commitmentType => "CommitmentType"
  | .allDataObjectsCommitmentType => "AllDataObjectsCommitmentType"
  | .individualDataObjectsTimeStamp => "IndividualDataObjectsTimeStamp"
  | .allDataObjectsTimeStamp => "AllDataObjectsTimeStamp"
  | .otherSignedDataObject => "OtherSignedDataObjectProperty"
  | .otherUnsignedDataObject => "OtherUnsignedDataObjectProperty"

/-- The container the kind belongs to. -/
def group : PropertyKind → PropertyGroup
  | .signingTime | .signatureProductionPlace | .signerRole | .signingCertificate
  | .signaturePolicy | .otherSignedSignature => .signedSignature
  | .counterSignature | .signatureTimeStamp | .completeCertificateRefs | .completeRevocationRefs
  | .attrAuthoritiesCertValues | .attributeRevocationValues | .sigAndRefsTimeStamp
  | .certificateValues | .revocationValues | .archiveTimeStamp | .timeStampValidationData
  | .otherUnsignedSignature => .unsignedSignature
  | .dataObjectFormat | .commitmentType | .allDataObjectsCommitmentType
  | .individualDataObjectsTimeStamp | .allDataObjectsTimeStamp
  | .otherSignedDataObject => .signedDataObject
  | .otherUnsignedDataObject => .unsignedDataObject

/-- Whether the signature value covers properties of the kind. -/
def isSigned (k : PropertyKind) : Bool := k.group.isSigned

/-- Whether properties of the kind describe the signature itself. -/
def isSignatureLevel (k : PropertyKind) : Bool := k.group.isSignatureLevel

/-- Whether the kind is the catch-all of its group. -/
def isOther : PropertyKind → Bool
  | .otherSignedSignature | .otherUnsignedSignature | .otherSignedDataObject
  | .otherUnsignedDataObject => true
  | _ => false

/-- Whether properties of the kind carry a time-stamp token. -/
def isTimeStamp : PropertyKind → Bool
  | .signatureTimeStamp | .sigAndRefsTimeStamp | .archiveTimeStamp
  | .individualDataObjectsTimeStamp | .allDataObjectsTimeStamp => true
  | _ => false

/-- The local name of the element of the kind.  Both commitment kinds share one element, and a
catch-all kind has none: each of its properties brings its own. -/
def elementName? : PropertyKind → Option String
  | .signaturePolicy => some "SignaturePolicyIdentifier"
  | .commitmentType | .allDataObjectsCommitmentType => some "CommitmentTypeIndication"
  | .otherSignedSignature | .otherUnsignedSignature | .otherSignedDataObject
  | .otherUnsignedDataObject => none
  | k => some k.name

/-- The first kind whose element has the given local name. -/
def ofElementName? (localName : String) : Option PropertyKind :=
  values.find? fun k => k.elementName? == some localName

/-- The kind with the given name. -/
def ofName? (s : String) : Option PropertyKind :=
  values.find? fun k => k.name == s

/-- How a container accepts a property of the kind. -/
def insertionPolicy : PropertyKind → InsertionPolicy
  | .signingTime | .signatureProductionPlace | .signerRole | .signingCertificate
  | .signaturePolicy | .completeCertificateRefs | .completeRevocationRefs
  | .attrAuthoritiesCertValues | .attributeRevocationValues | .certificateValues
  | .revocationValues | .dataObjectFormat => .put
  | _ => .add

/-- The multiplicity of the kind, which only data-object kinds have.  The catch-all kinds have
many targets unless one of their properties chooses otherwise. -/
def multiplicity? : PropertyKind → Option Multiplicity
  | .dataObjectFormat => some .one
  | .commitmentType | .individualDataObjectsTimeStamp | .otherSignedDataObject
  | .otherUnsignedDataObject => some .many
  | .allDataObjectsCommitmentType | .allDataObjectsTimeStamp => some .all
  | _ => none

/-- The list of kinds is complete. -/
theorem mem_values (k : PropertyKind) : k ∈ values := by
  cases k <;> decide

/-- The multiplicity of a property that does not choose its own. -/
def multiplicity (k : PropertyKind) : Multiplicity := k.multiplicity?.getD .many

/-- A kind has a multiplicity exactly when it is a data-object kind. -/
theorem isSome_multiplicity? (k : PropertyKind) :
    k.multiplicity?.isSome = !k.isSignatureLevel := by
  cases k <;> rfl

/-- A group's catch-all kind belongs to the group. -/
theorem group_otherKind (g : PropertyGroup) : g.otherKind.group = g := by
  cases g <;> rfl

end PropertyKind

end AdvancedSignature
