import AdvancedSignature.X509.Certificate

/-!
# Validation data

The certification path of a certificate with the revocation lists used to validate it, and what
is known about a time-stamp token once it has been verified.  A path is never empty, which is
part of the type, so `leaf` and `trustAnchor` are total.
-/

namespace AdvancedSignature

/-- The elements of the list without those that occur earlier in it. -/
def distinct {α : Type} [DecidableEq α] (xs : List α) : List α :=
  xs.foldl (fun seen x => if x ∈ seen then seen else seen ++ [x]) []

/-- A certification path, from the leaf to the trust anchor, and its revocation lists. -/
structure ValidationData where
  certificates : List Certificate
  revocationLists : List RevocationList
  certificates_ne_nil : certificates ≠ []

namespace ValidationData

/-- The validation data of a path; repeated revocation lists are dropped. -/
def ofParts (certificates : List Certificate) (revocationLists : List RevocationList) :
    Except Error ValidationData :=
  if h : certificates ≠ [] then .ok ⟨certificates, distinct revocationLists, h⟩
  else .error .emptyCertificateChain

/-- The validation data of a path without revocation lists. -/
def ofCertificates (certificates : List Certificate) : Except Error ValidationData :=
  ofParts certificates []

/-- The certificate the path belongs to. -/
def leaf (d : ValidationData) : Certificate := d.certificates.head d.certificates_ne_nil

/-- The certificate the path ends with. -/
def trustAnchor (d : ValidationData) : Certificate :=
  d.certificates.getLast d.certificates_ne_nil

/-- The certificates after the leaf. -/
def issuers (d : ValidationData) : List Certificate := d.certificates.tail

/-- The leaf and the certificates after it make the path. -/
theorem leaf_cons_issuers (d : ValidationData) : d.leaf :: d.issuers = d.certificates :=
  List.cons_head_tail d.certificates_ne_nil

end ValidationData

/-- What verifying a time-stamp token yields: the path of the authority that issued it, and when
it did. -/
structure TimeStampVerificationData where
  validationData : ValidationData
  time : DateTime

namespace TimeStampVerificationData

/-- The data made of values that may be missing; the path is asked for first. -/
def ofParts (validationData : Option ValidationData) (time : Option DateTime) :
    Except Error TimeStampVerificationData := do
  let validationData ← match validationData with
    | some d => pure d
    | none => .error (.incompleteTimeStampData "validation data")
  let time ← match time with
    | some t => pure t
    | none => .error (.incompleteTimeStampData "time")
  return { validationData, time }

end TimeStampVerificationData

end AdvancedSignature
