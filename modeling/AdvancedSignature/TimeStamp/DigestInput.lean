import AdvancedSignature.Algorithm
import AdvancedSignature.Bytes
import AdvancedSignature.Error

/-!
# Digest inputs

The byte string that a time-stamp token is computed over grows by sources: the content of signed
references and nodes of the document, one after the other with nothing in between.  Nodes are
canonicalized, and so is a reference whose content is a set of nodes.  A source that cannot be
obtained leaves the input as it was.

`add` gives the next input.  `addInPlace` changes the input that is there, and what it has done to
it stays when it fails.
-/

namespace AdvancedSignature

/-- What a reference gives after its transforms. -/
inductive ReferenceContent (Node : Type) where
  | octets (bytes : Bytes)
  | nodes (nodes : List Node)
  deriving Repr

/-- What digest inputs need of an XML signature engine.  A failure is told in the engine's own
words. -/
structure XmlEngine (Node Reference : Type) where
  content : Reference → Except String (ReferenceContent Node)
  canonicalize : List Node → Algorithm → Except String Bytes

/-- A source of a digest input. -/
inductive DigestSource (Node Reference : Type) where
  | node (n : Node)
  | reference (r : Reference)
  deriving Repr

namespace XmlEngine

variable {Node Reference : Type}

/-- The octets of a source under a canonicalization. -/
def octets (engine : XmlEngine Node Reference) (canonicalization : Algorithm) :
    DigestSource Node Reference → Except String Bytes
  | .node n => engine.canonicalize [n] canonicalization
  | .reference r => do
      match ← engine.content r with
      | .octets bytes => return bytes
      | .nodes nodes => engine.canonicalize nodes canonicalization

end XmlEngine

/-- A digest input in the making. -/
structure DigestInput where
  /-- What nodes are canonicalized with. -/
  canonicalization : Algorithm
  bytes : Bytes := []
  deriving DecidableEq, Repr

namespace DigestInput

variable {Node Reference : Type}

/-- The input with the octets of one more source. -/
def add (engine : XmlEngine Node Reference) (input : DigestInput)
    (source : DigestSource Node Reference) : Except Error DigestInput :=
  match engine.octets input.canonicalization source with
  | .ok octets => .ok { input with bytes := input.bytes ++ octets }
  | .error cause => .error (.digestInputConstructionFailed cause)

/-- The input that consists of the sources. -/
def compose (engine : XmlEngine Node Reference) (canonicalization : Algorithm)
    (sources : List (DigestSource Node Reference)) : Except Error DigestInput :=
  sources.foldlM (add engine) { canonicalization }

/-- What the input comes to in the end. -/
def intoBytes (input : DigestInput) : Bytes := input.bytes

/-! ## In place -/

/-- Work on an input.  What it has done to the input by the time it fails is not undone. -/
abbrev InPlace := ExceptT Error (StateM DigestInput)

/-- What the engine answers, or its words as the cause of an error. -/
def answered {α : Type} (answer : Except String α) : InPlace α :=
  ExceptT.mk (pure (answer.mapError .digestInputConstructionFailed))

/-- Puts octets behind those that are there. -/
def append (octets : Bytes) : InPlace Unit :=
  modify fun input => { input with bytes := input.bytes ++ octets }

/-- Adds the canonical form of a node. -/
def addNode (engine : XmlEngine Node Reference) (n : Node) : InPlace Unit := do
  let octets ← answered (engine.canonicalize [n] (← get).canonicalization)
  append octets

/-- Adds the content of a reference, in canonical form if it consists of nodes. -/
def addReference (engine : XmlEngine Node Reference) (r : Reference) : InPlace Unit := do
  let octets ←
    match ← answered (engine.content r) with
    | .octets octets => pure octets
    | .nodes nodes => answered (engine.canonicalize nodes (← get).canonicalization)
  append octets

/-- Adds one more source. -/
def addInPlace (engine : XmlEngine Node Reference) : DigestSource Node Reference → InPlace Unit
  | .node n => addNode engine n
  | .reference r => addReference engine r

end DigestInput

end AdvancedSignature
