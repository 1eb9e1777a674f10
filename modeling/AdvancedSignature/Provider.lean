import AdvancedSignature.Algorithm
import AdvancedSignature.ValidationData
import AdvancedSignature.X509.Reference

/-!
# Providers

What a signer or verifier is given from outside: path validation, a time-stamp authority, the
verification of its tokens, and the choice of algorithms.  The first three are reached in a
monad `m`, which can be the network, a test script, or `Id` when they are plain functions.
Choosing algorithms is pure.
-/

namespace AdvancedSignature

/-- The type of a signing key. -/
inductive KeyAlgorithm where
  | rsa
  | ec
  | dsa
  deriving DecidableEq, Repr

namespace KeyAlgorithm

/-- The key types. -/
def values : List KeyAlgorithm := [.rsa, .ec, .dsa]

/-- The name of the key type. -/
def name : KeyAlgorithm → String
  | .rsa => "Rsa"
  | .ec => "Ec"
  | .dsa => "Dsa"

/-- The key type that an object identifier in dotted decimal names. -/
def ofOid? (oid : String) : Option KeyAlgorithm :=
  if oid = "1.2.840.113549.1.1.1" then some .rsa
  else if oid = "1.2.840.10045.2.1" then some .ec
  else if oid = "1.2.840.10040.4.1" then some .dsa
  else none

/-- The type of the certificate's key. -/
def ofCertificate (c : Certificate) : Except Error KeyAlgorithm := do
  let oid ← c.keyAlgorithmOid
  match ofOid? oid with
  | some key => return key
  | none => .error (.unsupportedAlgorithm s!"public key algorithm: {oid}")

end KeyAlgorithm

/-- What a canonicalization choice hands out: one shared algorithm, or a new one at each call. -/
inductive AlgorithmChoice where
  | shared (algorithm : Algorithm)
  | fresh (algorithm : Algorithm)
  deriving DecidableEq, Repr

namespace AlgorithmChoice

/-- The chosen algorithm. -/
def algorithm : AlgorithmChoice → Algorithm
  | .shared a => a
  | .fresh a => a

/-- Whether two calls hand out different instances. -/
def isFresh : AlgorithmChoice → Bool
  | .shared _ => false
  | .fresh _ => true

end AlgorithmChoice

/-- The choice of the algorithms that a signature uses. -/
structure AlgorithmsProvider where
  signatureAlgorithm : KeyAlgorithm → Except Error Algorithm
  canonicalizationForSignature : AlgorithmChoice
  canonicalizationForTimeStamps : AlgorithmChoice
  canonicalizationForReferences : AlgorithmChoice
  digestForDataObjectReferences : String
  digestForReferenceProperties : String
  digestForTimeStamps : String

namespace AlgorithmsProvider

/-- Signatures with SHA-256, Canonical XML 1.0 everywhere and SHA-256 for every digest. -/
def standard : AlgorithmsProvider where
  signatureAlgorithm
    | .rsa => .ok { uri := Algorithm.rsaSha256 }
    | .ec => .ok { uri := Algorithm.ecdsaSha256 }
    | .dsa => .ok { uri := Algorithm.dsaSha256 }
  canonicalizationForSignature := .fresh { uri := Algorithm.c14n }
  canonicalizationForTimeStamps := .fresh { uri := Algorithm.c14n }
  canonicalizationForReferences := .fresh { uri := Algorithm.c14n }
  digestForDataObjectReferences := Algorithm.sha256
  digestForReferenceProperties := Algorithm.sha256
  digestForTimeStamps := Algorithm.sha256

/-- The same choice, but with these canonicalizations, each shared by all calls. -/
def withCanonicalizations (p : AlgorithmsProvider) (signature timeStamps references : Algorithm) :
    AlgorithmsProvider :=
  { p with
    canonicalizationForSignature := .shared signature
    canonicalizationForTimeStamps := .shared timeStamps
    canonicalizationForReferences := .shared references }

/-- The same choice, but with one digest algorithm for everything. -/
def withDigest (p : AlgorithmsProvider) (uri : String) : AlgorithmsProvider :=
  { p with
    digestForDataObjectReferences := uri
    digestForReferenceProperties := uri
    digestForTimeStamps := uri }

end AlgorithmsProvider

/-- Builds and validates the path of a selected certificate, with the help of further
certificates found in the signature. -/
structure CertificateValidationProvider (m : Type → Type) where
  validate : CertificateSelector → DateTime → List Certificate → m (Except Error ValidationData)

/-- A token as a time-stamp authority issues it. -/
structure TimeStampToken where
  encoded : Bytes
  /-- When the authority says it made the token.  What is recorded is the verifier's answer. -/
  generationTime : DateTime
  deriving DecidableEq

/-- Issues time-stamp tokens over a digest input, imprinted with a digest algorithm. -/
structure TimeStampTokenProvider (m : Type → Type) where
  getToken : Bytes → String → m (Except Error TimeStampToken)

/-- Checks a token against a digest input, answering when it was issued, and gives the path of
the authority that issued it. -/
structure TimeStampVerificationProvider (m : Type → Type) where
  verifyToken : Bytes → Bytes → m (Except Error DateTime)
  tokenValidationData : Bytes → DateTime → m (Except Error ValidationData)

end AdvancedSignature
