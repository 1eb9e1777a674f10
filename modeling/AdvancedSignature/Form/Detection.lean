import AdvancedSignature.Error

/-!
# Which form a signature has

A signature has a form when every kind that the form requires is present.
`SignatureForm.detect?` finds the most complete such form, and `SignatureForm.check` says what is
missing for a given one.
-/

namespace AdvancedSignature.SignatureForm

/-- Whether every kind that the form requires is among the given ones. -/
def isSatisfied (f : SignatureForm) (kinds : List PropertyKind) : Bool :=
  f.requiredKinds.all fun k => kinds.contains k

/-- The most complete form whose required kinds are all present.  A signature that satisfies both
EPES and T has the form T. -/
def detect? (kinds : List PropertyKind) : Option SignatureForm :=
  values.reverse.find? fun f => f.isSatisfied kinds

/-- Fails on the first kind that the form requires and that is absent, from BES upwards. -/
def check (f : SignatureForm) (kinds : List PropertyKind) : Except Error Unit :=
  match f.requiredKinds.find? fun k => !kinds.contains k with
  | some missing => .error (.formRequirement f missing)
  | none => .ok ()

end AdvancedSignature.SignatureForm
