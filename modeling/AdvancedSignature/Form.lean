import AdvancedSignature.Property.Kind

/-!
# Signature forms

The forms of an advanced signature, from the basic one to the archival one, with the properties
each of them makes mandatory.  EPES is a sibling of the later forms rather than a step towards
them: `SignatureForm.lineage` of T and above passes it by, though the order puts it after BES.
-/

namespace AdvancedSignature

/-- The signature forms, from the least to the most complete. -/
inductive SignatureForm where
  | bes
  | epes
  | t
  | c
  | x
  | xl
  | a
  deriving DecidableEq, Repr

namespace SignatureForm

/-- The forms, from the least to the most complete. -/
def values : List SignatureForm := [.bes, .epes, .t, .c, .x, .xl, .a]

/-- The position of the form among all forms. -/
def rank : SignatureForm → Nat
  | .bes => 0
  | .epes => 1
  | .t => 2
  | .c => 3
  | .x => 4
  | .xl => 5
  | .a => 6

instance : LE SignatureForm := ⟨fun f g => f.rank ≤ g.rank⟩

instance : LT SignatureForm := ⟨fun f g => f.rank < g.rank⟩

instance (f g : SignatureForm) : Decidable (f ≤ g) :=
  inferInstanceAs (Decidable (f.rank ≤ g.rank))

instance (f g : SignatureForm) : Decidable (f < g) :=
  inferInstanceAs (Decidable (f.rank < g.rank))

/-- The name of the form. -/
def name : SignatureForm → String
  | .bes => "BES"
  | .epes => "EPES"
  | .t => "T"
  | .c => "C"
  | .x => "X"
  | .xl => "XL"
  | .a => "A"

/-- The form with the given name, in upper or lower case ASCII letters. -/
def ofName? (s : String) : Option SignatureForm :=
  values.find? fun f => f.name.toList.map Char.toLower == s.toList.map Char.toLower

/-- The kinds the form adds to those of the form it extends. -/
def ownRequirements : SignatureForm → List PropertyKind
  | .bes => [.signingCertificate]
  | .epes => [.signaturePolicy]
  | .t => [.signatureTimeStamp]
  | .c => [.completeCertificateRefs, .completeRevocationRefs]
  | .x => [.sigAndRefsTimeStamp]
  | .xl => [.certificateValues, .revocationValues]
  | .a => [.archiveTimeStamp]

/-- The forms the form is layered on, itself included, from BES upwards. -/
def lineage : SignatureForm → List SignatureForm
  | .bes => [.bes]
  | .epes => [.bes, .epes]
  | .t => [.bes, .t]
  | .c => [.bes, .t, .c]
  | .x => [.bes, .t, .c, .x]
  | .xl => [.bes, .t, .c, .x, .xl]
  | .a => [.bes, .t, .c, .x, .xl, .a]

/-- Every kind a signature of the form must carry, in the order of the lineage. -/
def requiredKinds (f : SignatureForm) : List PropertyKind := f.lineage.flatMap ownRequirements

/-- Whether producing the form needs a time-stamp authority. -/
def needsTimeStamps (f : SignatureForm) : Bool := decide (t ≤ f)

/-- Whether producing the form needs certificate path validation. -/
def needsValidationData (f : SignatureForm) : Bool := decide (c ≤ f)

/-- The list of forms is complete. -/
theorem mem_values (f : SignatureForm) : f ∈ values := by
  cases f <;> decide

end SignatureForm

end AdvancedSignature
