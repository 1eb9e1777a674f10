import AdvancedSignature.Der.Reader

/-!
# Object identifiers

An object identifier is a list of numbers, its arcs.  The first two share one byte, and each
later one is written in base 128 with a mark on every byte but its last.  It has five bytes at most,
a fifth below 16, and counts modulo 2³².
-/

namespace AdvancedSignature.Der

/-- An object identifier, by the content of its element. -/
structure ObjectIdentifier where
  content : Bytes
  deriving DecidableEq, Repr

namespace ObjectIdentifier

/-- The arcs written in base 128; `value` and `count` are the value and the number of bytes of
the arc that is being read. -/
def laterArcs? (value : UInt32) (count : Nat) : Bytes → Option (List Nat)
  | [] => if count = 0 then some [] else none
  | b :: rest =>
      if 4 ≤ count ∧ 16 ≤ b then none
      else
        let value := value <<< 7 ||| (b &&& 0x7f).toUInt32
        if b < 0x80 then (laterArcs? 0 0 rest).map (value.toNat :: ·)
        else laterArcs? value (count + 1) rest

/-- The arcs of a content; it has three bytes at least and 39 at most. -/
def arcs? (content : Bytes) : Option (List Nat) :=
  match content with
  | [] => none
  | first :: rest =>
      if 3 ≤ content.length ∧ content.length ≤ 39 ∧ first < 120 then
        (laterArcs? 0 0 rest).map fun arcs => first.toNat / 40 :: first.toNat % 40 :: arcs
      else none

/-- The object identifier of a content, if it is one. -/
def ofContent? (content : Bytes) : Option ObjectIdentifier :=
  if (arcs? content).isSome then some ⟨content⟩ else none

/-- The bytes of an arc; all but the last are marked. -/
def arcBytes (last : Bool) (n : Nat) : Bytes :=
  let b := UInt8.ofNat (if last then n % 128 else 128 + n % 128)
  if _h : n < 128 then [b] else arcBytes false (n / 128) ++ [b]
termination_by n
decreasing_by omega

/-- The object identifier with the arcs. -/
def ofArcs : List Nat → ObjectIdentifier
  | first :: second :: rest =>
      ⟨UInt8.ofNat (first * 40 + second) :: rest.flatMap (arcBytes true)⟩
  | _ => ⟨[]⟩

/-- The arcs in decimal with points between them. -/
def dotted (oid : ObjectIdentifier) : String :=
  ".".intercalate (((arcs? oid.content).getD []).map toString)

/-- Reads an object identifier. -/
def reader : Reader ObjectIdentifier := do
  let bytes ← Reader.content Tag.objectIdentifier
  Reader.ofOption (ofContent? bytes)

end ObjectIdentifier

end AdvancedSignature.Der
