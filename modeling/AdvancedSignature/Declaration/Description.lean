import AdvancedSignature.Instance
import AdvancedSignature.Property.DataObject

/-!
# Descriptions of data objects

A description says what is signed under one reference: where the data is, how it is transformed,
and the properties declared on it.  A property may be declared on several data objects, so its
targets are not part of the description.  `DataObjectDescription.declare` keeps the two in step:
it takes the property in, has the target recorded, and takes the property out again if the target
is refused.
-/

namespace AdvancedSignature

/-- The targets of each data-object property. -/
structure TargetTable where
  ofProperty : DataObjectProperty → List DataObjectId := fun _ => []

namespace TargetTable

/-- The target set of a property. -/
def targetSet (t : TargetTable) (p : DataObjectProperty) : TargetSet :=
  p.targetSet (t.ofProperty p)

/-- Gives a property other targets. -/
def set (t : TargetTable) (p : DataObjectProperty) (targets : List DataObjectId) : TargetTable :=
  ⟨fun q => if q = p then targets else t.ofProperty q⟩

/-- Records a target of a property. -/
def attach (t : TargetTable) (p : DataObjectProperty) (target : DataObjectId) :
    Except Error TargetTable :=
  ((t.targetSet p).attach target).map fun s => t.set p s.targets

end TargetTable

/-- Takes a property into a bag and records the target, or leaves both as they were. -/
def insertAndAttach (bag : Bag DataObjectProperty) (table : TargetTable) (p : DataObjectProperty)
    (target : DataObjectId) : Except Error Unit × Bag DataObjectProperty × TargetTable :=
  match bag.putOrAdd p with
  | .error e => (.error e, bag, table)
  | .ok inserted =>
      match table.attach p target with
      | .ok attached => (.ok (), inserted, attached)
      | .error e =>
          match inserted.remove p with
          | .ok restored => (.error e, restored, table)
          | .error failure => (.error failure, inserted, table)

/-- What is signed under one reference. -/
structure DataObjectDescription where
  id : DataObjectId
  /-- The identifier of the reference. -/
  referenceId : String
  uri : String
  referenceType : Option String := none
  transforms : List AlgorithmInstance := []
  signed : Bag DataObjectProperty := {}
  unsigned : Bag DataObjectProperty := {}
  deriving DecidableEq

namespace DataObjectDescription

/-- The identifier that a reference gets when none is chosen. -/
def generatedReferenceId (id : DataObjectId) : String := s!"xades-ref-{id.sequence}"

/-- The description with another type of reference. -/
def withType (d : DataObjectDescription) (referenceType : String) : DataObjectDescription :=
  { d with referenceType := some referenceType }

/-- The description with one more transform.  The same instance cannot stand twice in a chain. -/
def addTransform (d : DataObjectDescription) (t : AlgorithmInstance) :
    Except Error DataObjectDescription :=
  if d.transforms.contains t then .error (.duplicateTransform t.algorithm.uri)
  else .ok { d with transforms := d.transforms ++ [t] }

/-- Declares a property on the data object: among the unsigned ones if its kind is the unsigned
one, and else among the signed ones. -/
def declare (d : DataObjectDescription) (table : TargetTable) (p : DataObjectProperty) :
    Except Error Unit × DataObjectDescription × TargetTable :=
  if p.kind = .otherUnsignedDataObject then
    let (outcome, unsigned, table) := insertAndAttach d.unsigned table p d.id
    (outcome, { d with unsigned }, table)
  else
    let (outcome, signed, table) := insertAndAttach d.signed table p d.id
    (outcome, { d with signed }, table)

end DataObjectDescription

end AdvancedSignature
