import AdvancedSignature.X509.RegisteredNames
import AdvancedSignature.Text.Hex

/-!
# Distinguished names

A name is a list of relative names, each a set of attributes.  `Name.render` writes it as text:
the relative names from last to first with commas between them, the attributes of each with plus
signs.  An attribute whose type has a registered name and whose value is text is written as
`KEY=text` with the escapes of `escape`; any other shows its type in dotted decimal and its value
as the hexadecimal form of its element.
-/

namespace AdvancedSignature.X509

open Der

/-- One attribute: a type and a value, which may be any element. -/
structure NameAttribute where
  type : ObjectIdentifier
  value : Element
  deriving DecidableEq, Repr

/-- A set of attributes, in the order of their written forms. -/
abbrev RelativeName := List NameAttribute

/-- A distinguished name. -/
structure Name where
  parts : List RelativeName
  deriving DecidableEq, Repr

namespace NameAttribute

/-- The name under which the attribute's type is registered. -/
def key? (a : NameAttribute) : Option String := RegisteredNames.nameOf? a.type

/-- Whether the byte may stand in a printable string. -/
def isPrintable (b : UInt8) : Bool :=
  let c := Char.ofNat b.toNat
  c.isAlphanum || [' ', '\'', '(', ')', '+', ',', '-', '.', '/', ':', '=', '?'].contains c

/-- The characters of the value, when its tag is one of a text and its bytes are valid there. -/
def text? (a : NameAttribute) : Option (List Char) :=
  let bytes := a.value.content
  let ascii := bytes.map fun b => Char.ofNat b.toNat
  if a.value.tag = Tag.utf8String then (Bytes.toString? bytes).map String.toList
  else if a.value.tag = Tag.printableString then
    if bytes.all isPrintable then some ascii else none
  else if a.value.tag = Tag.ia5String ∨ a.value.tag = Tag.teletexString then
    if bytes.all (· < 0x80) then some ascii else none
  else none

/-- A character as it is written inside the text of an attribute. -/
def escapeChar (c : Char) : List Char :=
  if ['"', '+', ',', ';', '<', '>', '\\'].contains c then ['\\', c]
  else if c.toNat < 0x20 ∨ c.toNat = 0x7f then
    ['\\', Hex.digit (c.toNat / 16), Hex.digit (c.toNat % 16)]
  else [c]

/-- The characters after the first, of which a last space is marked. -/
def escapeRest : List Char → List Char
  | [] => []
  | [' '] => ['\\', ' ']
  | c :: rest => escapeChar c ++ escapeRest rest

/-- The text with its special characters marked; a number sign is special only in front, and a
space only in front and at the end. -/
def escape : List Char → List Char
  | [] => []
  | c :: rest => (if c = '#' ∨ c = ' ' then ['\\', c] else escapeChar c) ++ escapeRest rest

/-- The attribute as text. -/
def render (a : NameAttribute) : String :=
  match a.key?, a.text? with
  | some key, some text => key ++ "=" ++ String.ofList (escape text)
  | _, _ => a.type.dotted ++ "=#" ++ Hex.render a.value.write

/-- The written form of the attribute. -/
def write (a : NameAttribute) : Bytes :=
  Element.write ⟨Tag.sequence,
    Element.write ⟨Tag.objectIdentifier, a.type.content⟩ ++ a.value.write⟩

/-- Reads an attribute. -/
def reader : Reader NameAttribute :=
  Reader.inside Tag.sequence do
    let type ← ObjectIdentifier.reader
    let value ← Reader.element
    return ⟨type, value⟩

end NameAttribute

namespace RelativeName

/-- Whether one byte string stands before another. -/
def bytesLt : Bytes → Bytes → Bool
  | _, [] => false
  | [], _ :: _ => true
  | a :: as, b :: bs => a < b || (a == b && bytesLt as bs)

/-- The set with one more attribute; fails when it is there already. -/
def insert? (a : NameAttribute) : RelativeName → Option RelativeName
  | [] => some [a]
  | b :: rest =>
      if a.write = b.write then none
      else if bytesLt a.write b.write then some (a :: b :: rest)
      else (insert? a rest).map (b :: ·)

/-- The set of the attributes; fails when two of them are equal. -/
def ofList? : List NameAttribute → Option RelativeName
  | [] => some []
  | a :: rest => (ofList? rest).bind (insert? a)

/-- The set as text. -/
def render (attributes : RelativeName) : String :=
  "+".intercalate (attributes.map NameAttribute.render)

/-- Reads a set of attributes. -/
def reader : Reader RelativeName := do
  let attributes ← Reader.listInside Tag.set NameAttribute.reader
  Reader.ofOption (ofList? attributes)

end RelativeName

namespace Name

/-- The name as text. -/
def render (n : Name) : String := ",".intercalate (n.parts.reverse.map RelativeName.render)

/-- Reads a name. -/
def reader : Reader Name := do
  let parts ← Reader.listInside Tag.sequence RelativeName.reader
  return ⟨parts⟩

end Name

end AdvancedSignature.X509
