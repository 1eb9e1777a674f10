import AdvancedSignature.Bytes

/-!
# DER elements

An element is a tag octet, a length and a content.  Lengths are definite and as short as can be,
and the tag is one of those of `isTag`, all of a single octet, so an element has exactly one
written form: `write` gives it, and `read?` takes it off the front of a byte string.
-/

namespace AdvancedSignature.Der

/-! ## Tags -/

namespace Tag

/-- A truth value. -/
def boolean : UInt8 := 0x01

/-- A signed number. -/
def integer : UInt8 := 0x02

/-- A string of bits. -/
def bitString : UInt8 := 0x03

/-- A string of octets. -/
def octetString : UInt8 := 0x04

/-- An object identifier. -/
def objectIdentifier : UInt8 := 0x06

/-- Text in UTF-8. -/
def utf8String : UInt8 := 0x0c

/-- Text in the printable alphabet. -/
def printableString : UInt8 := 0x13

/-- Text in the teletex alphabet. -/
def teletexString : UInt8 := 0x14

/-- Text in ASCII. -/
def ia5String : UInt8 := 0x16

/-- A time with a year of two digits. -/
def utcTime : UInt8 := 0x17

/-- A time with a year of four digits. -/
def generalizedTime : UInt8 := 0x18

/-- A list of elements. -/
def sequence : UInt8 := 0x30

/-- A collection of elements, in the order of their encodings. -/
def set : UInt8 := 0x31

/-- The universal tags that are known. -/
def universal : List UInt8 :=
  [0x01, 0x02, 0x03, 0x04, 0x05, 0x06, 0x09, 0x0a, 0x0c, 0x12, 0x13, 0x14, 0x15, 0x16, 0x17,
    0x18, 0x1a, 0x1e, 0x30, 0x31]

/-- The number of a tag outside the universal class. -/
def number (tag : UInt8) : UInt8 := tag &&& 0x1f

/-- Whether the tag belongs to the context in which it stands. -/
def isContextSpecific (tag : UInt8) : Bool := tag &&& 0xc0 == 0x80

/-- The tag of a context-specific element that holds others. -/
def contextConstructed (n : UInt8) : UInt8 := 0xa0 ||| n

/-- The tag of a context-specific element that holds a value of its own. -/
def contextPrimitive (n : UInt8) : UInt8 := 0x80 ||| n

end Tag

/-- Whether the octet is a known tag: a universal one from the list, or one of another class
whose number fits the octet. -/
def isTag (tag : UInt8) : Bool :=
  if tag &&& 0xc0 = 0 then Tag.universal.contains tag else Tag.number tag != 0x1f

/-! ## Lengths -/

/-- The bytes of a number without leading zeros. -/
def minimalBytes (n : Nat) : Bytes :=
  if _h : n = 0 then [] else minimalBytes (n / 256) ++ [UInt8.ofNat n]
termination_by n
decreasing_by omega

/-- The shortest form of a length. -/
def writeLength (n : Nat) : Bytes :=
  if n < 128 then [UInt8.ofNat n]
  else
    let bytes := minimalBytes n
    UInt8.ofNat (128 + bytes.length) :: bytes

/-- The length at the front, if it is in its shortest form and takes at most four bytes. -/
def readLength? : Bytes → Option (Nat × Bytes)
  | [] => none
  | first :: rest =>
      if first < 0x80 then some (first.toNat, rest)
      else
        let count := first.toNat - 128
        let n := Bytes.toNat (rest.take count)
        if 1 ≤ count ∧ count ≤ 4 ∧ first :: rest.take count = writeLength n then
          some (n, rest.drop count)
        else none

/-! ## Elements -/

/-- A tag and a content. -/
structure Element where
  tag : UInt8
  content : Bytes
  deriving DecidableEq, Repr

namespace Element

/-- The written form of an element. -/
def write (e : Element) : Bytes := e.tag :: writeLength e.content.length ++ e.content

/-- The element at the front, and what follows it. -/
def read? : Bytes → Option (Element × Bytes)
  | [] => none
  | tag :: rest =>
      if isTag tag then do
        let (n, body) ← readLength? rest
        if n ≤ body.length then some (⟨tag, body.take n⟩, body.drop n) else none
      else none

end Element

end AdvancedSignature.Der
