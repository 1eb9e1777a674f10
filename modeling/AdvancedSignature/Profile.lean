import AdvancedSignature.Form
import AdvancedSignature.Provider

/-!
# Profiles

A profile is the form that signatures are to have, with the providers to produce and verify it.
`Profile.build` checks a configuration: forms from T upwards need both time-stamp providers, forms
from C upwards path validation as well, and every canonicalization has to be one that signature
engines know.
-/

namespace AdvancedSignature

/-- A form with the providers that are at hand. -/
structure ProfileConfiguration (m : Type → Type) where
  form : SignatureForm
  algorithms : Option AlgorithmsProvider := none
  certificateValidation : Option (CertificateValidationProvider m) := none
  timeStampTokens : Option (TimeStampTokenProvider m) := none
  timeStampVerification : Option (TimeStampVerificationProvider m) := none

/-- The providers of an operation, with which its form can be produced. -/
structure Profile (m : Type → Type) where
  form : SignatureForm
  algorithms : AlgorithmsProvider
  certificateValidation? : Option (CertificateValidationProvider m)
  timeStampTokens? : Option (TimeStampTokenProvider m)
  timeStampVerification? : Option (TimeStampVerificationProvider m)

namespace Profile

variable {m : Type → Type}

/-- What validates certification paths. -/
def certificateValidation (p : Profile m) : Except Error (CertificateValidationProvider m) :=
  match p.certificateValidation? with
  | some provider => .ok provider
  | none => .error (.missingProvider "certificate validation")

/-- What issues time-stamp tokens. -/
def timeStampTokens (p : Profile m) : Except Error (TimeStampTokenProvider m) :=
  match p.timeStampTokens? with
  | some provider => .ok provider
  | none => .error (.missingProvider "time-stamp token")

/-- What verifies time-stamp tokens. -/
def timeStampVerification (p : Profile m) : Except Error (TimeStampVerificationProvider m) :=
  match p.timeStampVerification? with
  | some provider => .ok provider
  | none => .error (.missingProvider "time-stamp verification")

/-- Refuses an algorithm that is no canonicalization. -/
def checkCanonicalization (purpose : String) (choice : AlgorithmChoice) : Except Error Unit :=
  let uri := choice.algorithm.uri
  if Algorithm.isCanonicalization uri then .ok ()
  else .error (.unsupportedAlgorithm s!"{purpose} canonicalization: {uri}")

/-- Refuses an unknown canonicalization for any purpose. -/
def checkAlgorithms (a : AlgorithmsProvider) : Except Error Unit := do
  checkCanonicalization "signature" a.canonicalizationForSignature
  checkCanonicalization "time-stamp" a.canonicalizationForTimeStamps
  checkCanonicalization "reference" a.canonicalizationForReferences

/-- The profile that a configuration describes, as far as it can be checked. -/
def ofConfiguration (c : ProfileConfiguration m) : Profile m where
  form := c.form
  algorithms := c.algorithms.getD AlgorithmsProvider.standard
  certificateValidation? := c.certificateValidation
  timeStampTokens? := c.timeStampTokens
  timeStampVerification? := c.timeStampVerification

/-- Refuses a profile that lacks a provider which its form needs. -/
def checkProviders (p : Profile m) : Except Error Unit := do
  if p.form.needsTimeStamps then
    let _ ← p.timeStampTokens
    let _ ← p.timeStampVerification
  if p.form.needsValidationData then
    let _ ← p.certificateValidation

/-- The profile of a configuration, if its form can be produced. -/
def build (c : ProfileConfiguration m) : Except Error (Profile m) := do
  let p := ofConfiguration c
  p.checkProviders
  checkAlgorithms p.algorithms
  return p

end Profile

end AdvancedSignature
