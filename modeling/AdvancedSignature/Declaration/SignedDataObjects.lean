import AdvancedSignature.Declaration.Description

/-!
# Signed data objects

The data objects that one signature covers, in the order of its references, with the properties
that apply to all of them.  Reference identifiers are distinct.
-/

namespace AdvancedSignature

/-- The data objects of a signature. -/
structure SignedDataObjects where
  objects : List DataObjectDescription := []
  forAllSigned : Bag DataObjectProperty := {}
  forAllUnsigned : Bag DataObjectProperty := {}
  deriving DecidableEq

namespace SignedDataObjects

/-- The data object with the identity. -/
def get? (s : SignedDataObjects) (id : DataObjectId) : Option DataObjectDescription :=
  s.objects.find? fun o => o.id == id

/-- The data object with the reference identifier. -/
def byReferenceId? (s : SignedDataObjects) (referenceId : String) :
    Option DataObjectDescription :=
  s.objects.find? fun o => o.referenceId == referenceId

/-- The reference identifiers in order. -/
def referenceIds (s : SignedDataObjects) : List String :=
  s.objects.map DataObjectDescription.referenceId

/-- Adds a data object. -/
def add (s : SignedDataObjects) (object : DataObjectDescription) :
    Except Error SignedDataObjects :=
  if (s.byReferenceId? object.referenceId).isSome then
    .error (.duplicateDataObject object.referenceId)
  else .ok { s with objects := s.objects ++ [object] }

/-- Declares a property on all data objects, now and later.  It must be one that applies to all
by its multiplicity. -/
def declareForAll (s : SignedDataObjects) (p : DataObjectProperty) :
    Except Error SignedDataObjects :=
  if p.multiplicity ≠ .all then .error (.misplacedProperty p.kind .allDataObjects)
  else if p.kind = .otherUnsignedDataObject then
    (s.forAllUnsigned.putOrAdd p).map fun bag => { s with forAllUnsigned := bag }
  else (s.forAllSigned.putOrAdd p).map fun bag => { s with forAllSigned := bag }

/-- The signed properties, each once: object after object, then those for all. -/
def signedProperties (s : SignedDataObjects) : InstanceList DataObjectProperty :=
  InstanceList.ofList ((s.objects.flatMap fun o => o.signed.entries) ++ s.forAllSigned.entries)

/-- The unsigned properties, each once: object after object, then those for all. -/
def unsignedProperties (s : SignedDataObjects) : InstanceList DataObjectProperty :=
  InstanceList.ofList
    ((s.objects.flatMap fun o => o.unsigned.entries) ++ s.forAllUnsigned.entries)

/-- The data objects that a property targets. -/
def resolveTargets (s : SignedDataObjects) (targets : TargetSet) :
    Except Error (List DataObjectDescription) :=
  targets.targets.mapM fun id =>
    match s.get? id with
    | some object => .ok object
    | none =>
        let kind := targets.kind.name
        let object := id.render
        .error (.unresolvedTarget s!"{kind} targets data object {object} which is not signed")

/-- Checks that every property targets data objects of this signature only. -/
def checkTargets (s : SignedDataObjects) (table : TargetTable) : Except Error Unit := do
  s.signedProperties.entries.forM fun p => do
    let _ ← s.resolveTargets (table.targetSet p)
  s.unsignedProperties.entries.forM fun p => do
    let _ ← s.resolveTargets (table.targetSet p)

end SignedDataObjects

end AdvancedSignature
