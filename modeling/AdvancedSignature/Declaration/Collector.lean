import AdvancedSignature.Property.Signature

/-!
# Collecting signature-level properties

A collector gathers the signature-level properties that an application wants on a signature,
under the discipline of the final containers.  The signing certificate, the policy and the
validation data of later forms are not among them.  Each property gets an identity of its own, and
a collection run takes its identities from a supply of unused ones.
-/

namespace AdvancedSignature

/-- The properties collected so far. -/
structure Collector where
  signed : Bag SignedSignatureProperty := {}
  unsigned : Bag UnsignedSignatureProperty := {}
  deriving DecidableEq

/-- What an application can ask a collector for. -/
inductive CollectorRequest where
  | signingTime (time : DateTime)
  | productionPlace (place : ProductionPlace)
  | signerRole (role : SignerRole)
  | otherSigned (content : OtherContent)
  | counterSignature (xml : String)
  | signatureTimeStamp (canonicalization : Algorithm)
  | otherUnsigned (content : OtherContent)
  deriving DecidableEq

namespace Collector

/-- The collector with one more signed property. -/
def withSigned (c : Collector) (bag : Except Error (Bag SignedSignatureProperty)) :
    Except Error Collector :=
  bag.map fun signed => { c with signed }

/-- The collector with one more unsigned property. -/
def withUnsigned (c : Collector) (bag : Except Error (Bag UnsignedSignatureProperty)) :
    Except Error Collector :=
  bag.map fun unsigned => { c with unsigned }

/-- Collects one property under a fresh identity. -/
def collect (c : Collector) (fresh : InstanceId) : CollectorRequest → Except Error Collector
  | .signingTime time => c.withSigned (c.signed.put ⟨fresh, .signingTime time⟩)
  | .productionPlace place => c.withSigned (c.signed.put ⟨fresh, .productionPlace place⟩)
  | .signerRole role => c.withSigned (c.signed.put ⟨fresh, .signerRole role⟩)
  | .otherSigned content => c.withSigned (c.signed.add ⟨fresh, .other content⟩)
  | .counterSignature xml => c.withUnsigned (c.unsigned.add ⟨fresh, .counterSignature xml⟩)
  | .signatureTimeStamp canonicalization =>
      c.withUnsigned (c.unsigned.add ⟨fresh, .signatureTimeStamp canonicalization⟩)
  | .otherUnsigned content => c.withUnsigned (c.unsigned.add ⟨fresh, .other content⟩)

/-- Collects what it can: a refused request leaves the collector as it is.  The identities are
those from `next` on. -/
def collectAll (c : Collector) (next : Nat) : List CollectorRequest → Collector
  | [] => c
  | r :: rest =>
      match c.collect ⟨next⟩ r with
      | .ok c => collectAll c (next + 1) rest
      | .error _ => collectAll c (next + 1) rest

/-- Collects all or fails with the first refusal. -/
def collectEach (c : Collector) (next : Nat) : List CollectorRequest → Except Error Collector
  | [] => .ok c
  | r :: rest => do collectEach (← c.collect ⟨next⟩ r) (next + 1) rest

end Collector

end AdvancedSignature
