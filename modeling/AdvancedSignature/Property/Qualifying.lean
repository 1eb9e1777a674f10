import AdvancedSignature.Property.DataObject
import AdvancedSignature.Property.Signature

/-!
# Qualifying properties

Any property of a signature, tagged with the container in which it stands.  The tag says where it
was put, which need not be where its kind belongs.  `Resolutions` keeps what is known of the
time-stamps among them: whoever holds a property sees the same resolution.
-/

namespace AdvancedSignature

/-- A property in its container. -/
inductive QualifyingProperty where
  | signedSignature (p : SignedSignatureProperty)
  | unsignedSignature (p : UnsignedSignatureProperty)
  | signedDataObject (p : DataObjectProperty)
  | unsignedDataObject (p : DataObjectProperty)
  deriving DecidableEq

namespace QualifyingProperty

/-- A data-object property in the container of its kind: the unsigned one for the unsigned kind,
and else the signed one. -/
def ofDataObject (p : DataObjectProperty) : QualifyingProperty :=
  if p.kind = .otherUnsignedDataObject then .unsignedDataObject p else .signedDataObject p

/-- A property that declares a time-stamp, in the container of its kind. -/
def ofTimeStamp (id : InstanceId) (d : TimeStampDeclaration) : QualifyingProperty :=
  match d.kind with
  | .signature => .unsignedSignature ⟨id, .signatureTimeStamp d.canonicalization⟩
  | .sigAndRefs => .unsignedSignature ⟨id, .sigAndRefsTimeStamp d.canonicalization⟩
  | .archive => .unsignedSignature ⟨id, .archiveTimeStamp d.canonicalization⟩
  | .individualDataObjects | .allDataObjects => .signedDataObject ⟨id, .timeStamp d⟩

/-- The kind of the property. -/
def kind : QualifyingProperty → PropertyKind
  | .signedSignature p => p.kind
  | .unsignedSignature p => p.kind
  | .signedDataObject p => p.kind
  | .unsignedDataObject p => p.kind

/-- The name of the property's element. -/
def name : QualifyingProperty → String
  | .signedSignature p => p.name
  | .unsignedSignature p => p.name
  | .signedDataObject p => p.name
  | .unsignedDataObject p => p.name

/-- The container in which the property stands. -/
def container : QualifyingProperty → PropertyGroup
  | .signedSignature _ => .signedSignature
  | .unsignedSignature _ => .unsignedSignature
  | .signedDataObject _ => .signedDataObject
  | .unsignedDataObject _ => .unsignedDataObject

/-- The time-stamp that the property declares. -/
def timeStamp? : QualifyingProperty → Option TimeStampDeclaration
  | .unsignedSignature p => p.content.timeStamp?
  | .signedDataObject p => p.timeStamp?
  | _ => none

/-- The property, if it is about data objects. -/
def dataObject? : QualifyingProperty → Option DataObjectProperty
  | .signedDataObject p | .unsignedDataObject p => some p
  | _ => none

instance : HasKind QualifyingProperty := ⟨kind⟩

end QualifyingProperty

/-- What completes the time-stamps among the properties. -/
structure Resolutions where
  ofProperty : QualifyingProperty → Option Resolution := fun _ => none

namespace Resolutions

/-- The time-stamp of a property as it stands. -/
def timeStamp? (r : Resolutions) (p : QualifyingProperty) : Option TimeStamp :=
  p.timeStamp?.map fun d => ⟨d, r.ofProperty p⟩

/-- Records how a property's time-stamp stands. -/
def set (r : Resolutions) (p : QualifyingProperty) (ts : TimeStamp) : Resolutions :=
  ⟨fun q => if q = p then ts.resolution else r.ofProperty q⟩

/-- Whether the property declares a time-stamp that is still to be resolved. -/
def isPending (r : Resolutions) (p : QualifyingProperty) : Bool :=
  (r.timeStamp? p).any fun ts => !ts.isResolved

end Resolutions

end AdvancedSignature
