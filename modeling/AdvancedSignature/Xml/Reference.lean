import AdvancedSignature.Xml.Token.Lexer

/-!
# References

What stands after an ampersand: the number of a character, one of the five predefined names, or
the name of an entity.  `Chunk.ofText?` takes a text apart at its references.
-/

namespace AdvancedSignature.Xml

/-- A piece of text: a character as it stands, one that is referred to, or an entity. -/
inductive Chunk where
  | literal (c : Char)
  | character (c : Char)
  | entity (name : String)
  deriving DecidableEq, Repr

namespace Chunk

/-- The value of a digit, in either case. -/
def digitValue (c : Char) : Nat :=
  if c.isDigit then c.toNat - 48 else c.toLower.toNat - 87

/-- Whether the character is a hexadecimal digit. -/
def isHexDigit (c : Char) : Bool := c.isDigit || ('a' ≤ c.toLower && c.toLower ≤ 'f')

/-- The value of digits, if there are any and it fits 32 bits. -/
def number? (base : Nat) (digits : List Char) : Option Nat :=
  let value := digits.foldl (fun n c => base * n + digitValue c) 0
  if digits.isEmpty ∨ UInt32.size ≤ value then none else some value

/-- The character with the number; the replacement character stands for numbers of none. -/
def characterOf (n : Nat) : Char :=
  if n.isValidChar then Char.ofNat n else Char.ofNat 0xfffd

/-- The character that a predefined name stands for. -/
def predefined? (name : String) : Option Char :=
  if name = "quot" then some '"'
  else if name = "amp" then some '&'
  else if name = "apos" then some '\''
  else if name = "lt" then some '<'
  else if name = "gt" then some '>'
  else none

/-- A reference by number, after `&#`. -/
def numericReference : Lexer Chunk := do
  let isHex ← Lexer.sees "x"
  if isHex then Lexer.expect "x"
  let digits ← Lexer.takeWhile (if isHex then isHexDigit else Char.isDigit)
  match number? (if isHex then 16 else 10) digits with
  | some n =>
      Lexer.require (isDocumentChar (characterOf n))
      return .character (characterOf n)
  | none => Lexer.fail

/-- A reference by name, after the ampersand. -/
def namedReference : Lexer Chunk := do
  let name ← Lexer.name
  match predefined? name with
  | some c => return .character c
  | none => return .entity name

/-- A reference. -/
def reference : Lexer Chunk := do
  Lexer.expect "&"
  let chunk ← do
    if ← Lexer.sees "#" then
      Lexer.expect "#"
      numericReference
    else namedReference
  Lexer.expect ";"
  return chunk

/-- The pieces of a text, at most `fuel` of them. -/
def chunksUpTo : Nat → List Char → Option (List Chunk)
  | 0, _ => none
  | _ + 1, [] => some []
  | fuel + 1, c :: rest =>
      if c = '&' then do
        let (first, rest) ← reference (c :: rest)
        return first :: (← chunksUpTo fuel rest)
      else do
        return .literal c :: (← chunksUpTo fuel rest)

/-- The pieces of a text, unless one of its references is malformed. -/
def ofText? (text : List Char) : Option (List Chunk) := chunksUpTo (text.length + 1) text

end Chunk

end AdvancedSignature.Xml
