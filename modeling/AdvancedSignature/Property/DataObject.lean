import AdvancedSignature.Property.Bag
import AdvancedSignature.Property.TargetSet
import AdvancedSignature.TimeStamp.Basic

/-!
# Data-object properties

What is declared about the signed data objects.  A `DataObjectProperty` is a content under an
identity, because one property, a time-stamp say, may cover several data objects.  Its kind and
multiplicity follow from the content; the targets are kept beside it, see `TargetSet`.
-/

namespace AdvancedSignature

/-- How to present one data object. -/
structure DataObjectFormat where
  mimeType : Option String := none
  encoding : Option String := none
  description : Option String := none
  objectIdentifier : Option String := none
  deriving DecidableEq, Repr

/-- A commitment that the signer makes. -/
structure Commitment where
  uri : String
  description : Option String := none
  /-- The serialized contents of the qualifiers. -/
  qualifiers : List String := []
  deriving DecidableEq, Repr

namespace Commitment

/-- The signer created, approved and sent the data object. -/
def proofOfOrigin : String := "http://uri.etsi.org/01903/v1.2.2#ProofOfOrigin"

/-- The signer received it. -/
def proofOfReceipt : String := "http://uri.etsi.org/01903/v1.2.2#ProofOfReceipt"

/-- A trusted party delivered it. -/
def proofOfDelivery : String := "http://uri.etsi.org/01903/v1.2.2#ProofOfDelivery"

/-- The signer sent it, without having created it necessarily. -/
def proofOfSender : String := "http://uri.etsi.org/01903/v1.2.2#ProofOfSender"

/-- The signer approved its content. -/
def proofOfApproval : String := "http://uri.etsi.org/01903/v1.2.2#ProofOfApproval"

/-- The signer created it, without having approved or sent it necessarily. -/
def proofOfCreation : String := "http://uri.etsi.org/01903/v1.2.2#ProofOfCreation"

/-- The commitments that have a common meaning. -/
def values : List String :=
  [proofOfOrigin, proofOfReceipt, proofOfDelivery, proofOfSender, proofOfApproval, proofOfCreation]

end Commitment

/-- A property outside the closed set of kinds.  It chooses its own multiplicity. -/
structure OtherDataObjectContent where
  elementName : String
  /-- The serialized element. -/
  xml : String
  isSigned : Bool
  multiplicity : Multiplicity := .many
  deriving DecidableEq, Repr

/-- What a data-object property says. -/
inductive DataObjectContent where
  | format (content : DataObjectFormat)
  | commitment (content : Commitment)
  | commitmentForAll (content : Commitment)
  | timeStamp (declaration : TimeStampDeclaration)
  | other (content : OtherDataObjectContent)
  deriving DecidableEq, Repr

namespace DataObjectContent

/-- The kind of a property with this content. -/
def kind : DataObjectContent → PropertyKind
  | .format _ => .dataObjectFormat
  | .commitment _ => .commitmentType
  | .commitmentForAll _ => .allDataObjectsCommitmentType
  | .timeStamp d => d.kind.kind
  | .other o => if o.isSigned then .otherSignedDataObject else .otherUnsignedDataObject

/-- How many data objects a property with this content may target. -/
def multiplicity : DataObjectContent → Multiplicity
  | .other o => o.multiplicity
  | c => c.kind.multiplicity

end DataObjectContent

/-- A data-object property: a content under an identity. -/
structure DataObjectProperty where
  id : InstanceId
  content : DataObjectContent
  deriving DecidableEq, Repr

namespace DataObjectProperty

/-- The kind of the property. -/
def kind (p : DataObjectProperty) : PropertyKind := p.content.kind

/-- How many data objects the property may target. -/
def multiplicity (p : DataObjectProperty) : Multiplicity := p.content.multiplicity

/-- The name of the property's element. -/
def name (p : DataObjectProperty) : String :=
  match p.content with
  | .other o => o.elementName
  | _ => p.kind.name

/-- The time-stamp that the property declares. -/
def timeStamp? (p : DataObjectProperty) : Option TimeStampDeclaration :=
  match p.content with
  | .timeStamp d => some d
  | _ => none

/-- The target set of the property when it has these targets. -/
def targetSet (p : DataObjectProperty) (targets : List DataObjectId) : TargetSet :=
  ⟨p.kind, p.multiplicity, targets⟩

instance : HasKind DataObjectProperty := ⟨kind⟩

end DataObjectProperty

end AdvancedSignature
