import AdvancedSignature.Algorithm

/-!
# Instances

Some values are told apart by who made them rather than by what they say: two equal transforms
can stand in one chain when each is its own instance.  An `InstanceId` carries that identity, so
that "the same instance" is equality of values that hold one.
-/

namespace AdvancedSignature

/-- An identity, which tells apart values that otherwise say the same. -/
structure InstanceId where
  val : Nat
  deriving DecidableEq, Repr

/-- An algorithm under an identity.  Two holders can share it; an equal algorithm under another
identity is another one. -/
structure AlgorithmInstance where
  id : InstanceId
  algorithm : Algorithm
  deriving DecidableEq, Repr

end AdvancedSignature
