import AdvancedSignature.Error

/-!
# Targets

Which data objects a data-object property applies to.  `TargetSet.attach` records one more, within
what the multiplicity of the property allows: a property for all data objects never names one, no
target is named twice, and a property for one data object is full after the first.
-/

namespace AdvancedSignature

/-- The identity of a described data object. -/
structure DataObjectId where
  sequence : Nat
  deriving DecidableEq, Repr

namespace DataObjectId

/-- The identity as text. -/
def render (id : DataObjectId) : String := s!"#{id.sequence}"

end DataObjectId

/-- Where a property stands with its targets. -/
inductive AttachState where
  | unattached
  | partiallyAttached
  /-- No further target is accepted. -/
  | fullyAttached
  deriving DecidableEq, Repr

namespace AttachState

/-- The name of the state. -/
def name : AttachState → String
  | .unattached => "Unattached"
  | .partiallyAttached => "PartiallyAttached"
  | .fullyAttached => "FullyAttached"

end AttachState

/-- The targets of one data-object property, in the order in which they were attached. -/
structure TargetSet where
  kind : PropertyKind
  multiplicity : Multiplicity
  targets : List DataObjectId := []
  deriving DecidableEq, Repr

namespace TargetSet

/-- Whether the property applies to the data object by name. -/
def isAttachedTo (s : TargetSet) (target : DataObjectId) : Bool := s.targets.contains target

/-- Where the property stands with its targets. -/
def state (s : TargetSet) : AttachState :=
  if s.targets.isEmpty then .unattached
  else if s.multiplicity.cap = some s.targets.length then .fullyAttached
  else .partiallyAttached

/-- Records a target. -/
def attach (s : TargetSet) (target : DataObjectId) : Except Error TargetSet :=
  if s.multiplicity = .all then .error (.appliesToAllDataObjects s.kind)
  else if s.isAttachedTo target then .error (.alreadyAttachedToTarget s.kind)
  else if s.multiplicity.cap = some s.targets.length then
    .error (.multiplicityExceeded s.kind s.multiplicity)
  else .ok { s with targets := s.targets ++ [target] }

end TargetSet

end AdvancedSignature
