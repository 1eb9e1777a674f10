import AdvancedSignature.Algorithm
import AdvancedSignature.Error
import AdvancedSignature.Digest.Sha1
import AdvancedSignature.Digest.Sha256
import AdvancedSignature.Digest.Sha512
import AdvancedSignature.Digest.Sha3

/-!
# Digests by URI

`digest` computes the digest that an algorithm URI names.  `isSupported` says which URIs name
one, and `digest_isOk_iff` that these are exactly those for which there is a result.
-/

namespace AdvancedSignature

namespace Digest

/-- The digest function that a URI names. -/
def function? (uri : String) : Option (Bytes → Bytes) :=
  if uri = Algorithm.sha1 then some Sha1.digest
  else if uri = Algorithm.sha224 then some Sha256.digest224
  else if uri = Algorithm.sha256 then some Sha256.digest
  else if uri = Algorithm.sha384 then some Sha512.digest384
  else if uri = Algorithm.sha512 then some Sha512.digest
  else if uri = Algorithm.sha3x256 then some (Sha3.digest 32)
  else if uri = Algorithm.sha3x384 then some (Sha3.digest 48)
  else if uri = Algorithm.sha3x512 then some (Sha3.digest 64)
  else none

/-- Whether the URI names a digest. -/
def isSupported (uri : String) : Bool := (function? uri).isSome

end Digest

/-- The digest of the data under the algorithm that the URI names. -/
def digest (uri : String) (data : Bytes) : Except Error Bytes :=
  match Digest.function? uri with
  | some f => .ok (f data)
  | none => .error (.unsupportedAlgorithm s!"digest algorithm: {uri}")

/-- A digest fails only for want of an algorithm, whatever the data. -/
theorem digest_isOk_iff (uri : String) (data : Bytes) :
    (∃ value, digest uri data = .ok value) ↔ Digest.isSupported uri = true := by
  unfold digest Digest.isSupported
  cases Digest.function? uri <;> simp

end AdvancedSignature
