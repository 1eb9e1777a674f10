import AdvancedSignature.Profile
import AdvancedSignature.TimeStamp.Basic
import AdvancedSignature.TimeStamp.DigestInput

/-!
# Obtaining and verifying time-stamps

A profile declares time-stamps, has them issued and verifies them.  A token is accepted only after
the verifier has accepted it over the same bytes, whether it was just issued or found in a
signature; a time-stamp that is resolved already is refused before any provider is asked.
-/

namespace AdvancedSignature.Profile

variable {m : Type → Type}

/-- A time-stamp yet to be obtained, with the canonicalization of the profile. -/
def declareTimeStamp (p : Profile m) (kind : TimeStampKind) : TimeStampDeclaration :=
  ⟨kind, p.algorithms.canonicalizationForTimeStamps.algorithm⟩

variable [Monad m]

/-- Has a token verified over the bytes and completes the time-stamp with it. -/
def accept (p : Profile m) (ts : TimeStamp) (token bytes : Bytes) :
    m (Except Error DateTime × TimeStamp) :=
  match p.timeStampVerification with
  | .error e => return (.error e, ts)
  | .ok verifier => do
      match ← verifier.verifyToken token bytes with
      | .error e => return (.error e, ts)
      | .ok time =>
          match ← verifier.tokenValidationData token time with
          | .error e => return (.error e, ts)
          | .ok validationData =>
              match ts.resolve token ⟨validationData, time⟩ with
              | .error e => return (.error e, ts)
              | .ok resolved => return (.ok time, resolved)

/-- Has a token issued over the input and completes the time-stamp with it. -/
def stamp (p : Profile m) (ts : TimeStamp) (input : DigestInput) :
    m (Except Error DateTime × TimeStamp) :=
  if ts.isResolved then return (.error (.timeStampAlreadyResolved ts.kind), ts)
  else
    match p.timeStampTokens with
    | .error e => return (.error e, ts)
    | .ok authority => do
        match ← authority.getToken input.bytes p.algorithms.digestForTimeStamps with
        | .error e => return (.error e, ts)
        | .ok token => p.accept ts token.encoded input.bytes

/-- Verifies a token over the input and completes the time-stamp with it. -/
def verify (p : Profile m) (ts : TimeStamp) (token : Bytes) (input : DigestInput) :
    m (Except Error DateTime × TimeStamp) :=
  if ts.isResolved then return (.error (.timeStampAlreadyResolved ts.kind), ts)
  else p.accept ts token input.bytes

end AdvancedSignature.Profile
