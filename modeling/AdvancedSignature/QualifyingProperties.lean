import AdvancedSignature.Declaration.Collector
import AdvancedSignature.Declaration.SignedDataObjects
import AdvancedSignature.Form.Detection
import AdvancedSignature.Property.Qualifying

/-!
# The qualifying properties of a signature

The four containers of a signature.  `QualifyingProperties.assemble` fills them for a signature
being produced, from what was collected and declared; later forms add properties one by one.
-/

namespace AdvancedSignature

/-- The qualifying properties of a signature. -/
structure QualifyingProperties where
  signedSignature : Bag SignedSignatureProperty := {}
  signedDataObjects : InstanceList DataObjectProperty := {}
  unsignedSignature : Bag UnsignedSignatureProperty := {}
  unsignedDataObjects : InstanceList DataObjectProperty := {}
  deriving DecidableEq

namespace QualifyingProperties

/-! ## Adding properties -/

/-- Adds a signed signature-level property. -/
def addSignedSignature (q : QualifyingProperties) (p : SignedSignatureProperty) :
    Except Error QualifyingProperties :=
  (q.signedSignature.putOrAdd p).map fun bag => { q with signedSignature := bag }

/-- Adds an unsigned signature-level property. -/
def addUnsignedSignature (q : QualifyingProperties) (p : UnsignedSignatureProperty) :
    Except Error QualifyingProperties :=
  (q.unsignedSignature.putOrAdd p).map fun bag => { q with unsignedSignature := bag }

/-- Adds a signed data-object property. -/
def addSignedDataObject (q : QualifyingProperties) (p : DataObjectProperty) :
    Except Error QualifyingProperties :=
  (q.signedDataObjects.push p).map fun list => { q with signedDataObjects := list }

/-- Adds an unsigned data-object property. -/
def addUnsignedDataObject (q : QualifyingProperties) (p : DataObjectProperty) :
    Except Error QualifyingProperties :=
  (q.unsignedDataObjects.push p).map fun list => { q with unsignedDataObjects := list }

/-- Adds a property to the container of its tag. -/
def add (q : QualifyingProperties) : QualifyingProperty → Except Error QualifyingProperties
  | .signedSignature p => q.addSignedSignature p
  | .unsignedSignature p => q.addUnsignedSignature p
  | .signedDataObject p => q.addSignedDataObject p
  | .unsignedDataObject p => q.addUnsignedDataObject p

/-! ## Assembling -/

/-- The properties of a signature being produced.  The signing certificate and the policy, under
the given identity, come before what was collected.  The data-object properties are those of the
data objects, each once. -/
def assemble (collector : Collector) (objects : SignedDataObjects) (table : TargetTable)
    (id : InstanceId) (certificate : SigningCertificate) (policy : Option SignaturePolicy) :
    Except Error QualifyingProperties := do
  objects.checkTargets table
  let own : List SignedSignatureProperty :=
    ⟨id, .signingCertificate certificate⟩ :: policy.toList.map fun p => ⟨id, .policy p⟩
  let q ← (own ++ collector.signed.entries).foldlM addSignedSignature {}
  return { q with
    signedDataObjects := objects.signedProperties
    unsignedSignature := collector.unsigned
    unsignedDataObjects := objects.unsignedProperties }

/-! ## Views -/

/-- The properties in document order: signed before unsigned, and those of the signature before
those of data objects. -/
def properties (q : QualifyingProperties) : List QualifyingProperty :=
  q.signedSignature.entries.map .signedSignature ++
    q.signedDataObjects.entries.map .signedDataObject ++
    q.unsignedSignature.entries.map .unsignedSignature ++
    q.unsignedDataObjects.entries.map .unsignedDataObject

/-- The kinds of the properties in document order. -/
def kinds (q : QualifyingProperties) : List PropertyKind :=
  q.properties.map QualifyingProperty.kind

/-- Whether there is a property of the kind. -/
def containsKind (q : QualifyingProperties) (kind : PropertyKind) : Bool :=
  q.signedSignature.containsKind kind || q.signedDataObjects.containsKind kind ||
    q.unsignedSignature.containsKind kind || q.unsignedDataObjects.containsKind kind

/-- The signing certificate. -/
def signingCertificate? (q : QualifyingProperties) : Option SigningCertificate :=
  q.signedSignature.entries.findSome? fun p =>
    match p.content with
    | .signingCertificate c => some c
    | _ => none

/-- The time-stamps that are still to be resolved, in document order. -/
def pendingTimeStamps (q : QualifyingProperties) (r : Resolutions) : List QualifyingProperty :=
  q.properties.filter r.isPending

/-- The most complete form that the properties satisfy. -/
def form? (q : QualifyingProperties) : Option SignatureForm := SignatureForm.detect? q.kinds

/-- Checks that the properties satisfy the form. -/
def checkForm (q : QualifyingProperties) (f : SignatureForm) : Except Error Unit := f.check q.kinds

end QualifyingProperties

end AdvancedSignature
