import AdvancedSignature.Instance
import AdvancedSignature.Text.Base64
import AdvancedSignature.ValidationData

/-!
# Time-stamps

A time-stamp is declared before its token exists: all that is known is its kind and the
canonicalization under which its digest input is to be built.  `TimeStamp.resolve` completes it,
once, with a token, the time of the token and the validation data of the authority that issued
it.  The canonicalization never changes.
-/

namespace AdvancedSignature

/-- The kinds of time-stamps. -/
inductive TimeStampKind where
  | signature
  | sigAndRefs
  | archive
  | individualDataObjects
  | allDataObjects
  deriving DecidableEq, Repr

namespace TimeStampKind

/-- The kind of the property that carries the time-stamp. -/
def kind : TimeStampKind → PropertyKind
  | .signature => .signatureTimeStamp
  | .sigAndRefs => .sigAndRefsTimeStamp
  | .archive => .archiveTimeStamp
  | .individualDataObjects => .individualDataObjectsTimeStamp
  | .allDataObjects => .allDataObjectsTimeStamp

end TimeStampKind

/-- A time-stamp as it is declared. -/
structure TimeStampDeclaration where
  kind : TimeStampKind
  canonicalization : Algorithm
  deriving DecidableEq, Repr

/-- What completes a time-stamp. -/
structure Resolution where
  token : Bytes
  time : DateTime
  validationData : ValidationData

namespace Resolution

/-- The token as text. -/
def tokenText (r : Resolution) : String := Base64.render r.token

/-- The completion of a time-stamp by a token and what verifying the token yielded. -/
def ofToken (token : Bytes) (data : TimeStampVerificationData) : Resolution :=
  ⟨token, data.time, data.validationData⟩

end Resolution

/-- A time-stamp: its declaration and, once it is resolved, what completes it. -/
structure TimeStamp where
  declaration : TimeStampDeclaration
  resolution : Option Resolution := none

namespace TimeStamp

/-- The kind of the property that carries the time-stamp. -/
def kind (ts : TimeStamp) : PropertyKind := ts.declaration.kind.kind

/-- The canonicalization under which the digest input is built. -/
def canonicalization (ts : TimeStamp) : Algorithm := ts.declaration.canonicalization

/-- Whether the token is known. -/
def isResolved (ts : TimeStamp) : Bool := ts.resolution.isSome

/-- Completes a pending time-stamp.  What completed it first is kept. -/
def resolve (ts : TimeStamp) (token : Bytes) (data : TimeStampVerificationData) :
    Except Error TimeStamp :=
  if ts.isResolved then .error (.timeStampAlreadyResolved ts.kind)
  else .ok { ts with resolution := some (Resolution.ofToken token data) }

/-- Completing changes no declaration. -/
theorem declaration_of_resolve {ts resolved : TimeStamp} {token : Bytes}
    {data : TimeStampVerificationData} (h : ts.resolve token data = .ok resolved) :
    resolved.declaration = ts.declaration := by
  unfold resolve at h
  split at h
  · simp at h
  · cases h
    rfl

end TimeStamp

end AdvancedSignature
