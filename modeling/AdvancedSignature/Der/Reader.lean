import AdvancedSignature.Der.Element

/-!
# Reading DER

A reader takes a value off the front of a byte string or fails.  What stands inside a
constructed element must be used up by the reader of its content (`complete`), so no reader
passes over a byte, except that a context-specific field is looked for past those with a lower
number.
-/

namespace AdvancedSignature.Der

/-- A reader of values of a type. -/
abbrev Reader (α : Type) := StateT Bytes Option α

namespace Reader

/-- Fails. -/
def fail {α : Type} : Reader α := fun _ => none

/-- The value if there is one. -/
def ofOption {α : Type} (value : Option α) : Reader α := fun rest => value.map (·, rest)

/-- Runs the reader on a byte string, all of which it has to use. -/
def complete {α : Type} (r : Reader α) (bytes : Bytes) : Option α :=
  match r bytes with
  | some (value, []) => some value
  | _ => none

/-- The next element. -/
def element : Reader Element := fun bytes => Element.read? bytes

/-- The content of the next element, which must have the tag. -/
def content (tag : UInt8) : Reader Bytes := do
  let e ← element
  if e.tag = tag then return e.content else fail

/-- The value inside the next element, which must have the tag. -/
def inside {α : Type} (tag : UInt8) (r : Reader α) : Reader α := do
  let bytes ← content tag
  ofOption (complete r bytes)

/-- The tag of the next element, if there is one; fails when the octet there is not a tag. -/
def peek? : Reader (Option UInt8) := fun bytes =>
  match bytes with
  | [] => some (none, [])
  | tag :: _ => if isTag tag then some (some tag, bytes) else none

/-- The value of the reader, if the next element has one of the tags. -/
def optional {α : Type} (tags : List UInt8) (r : Reader α) : Reader (Option α) := do
  match ← peek? with
  | some tag => if tags.contains tag then some <$> r else return none
  | none => return none

/-- The values of the reader until the bytes are used up, at most `fuel` of them. -/
def repeatUpTo {α : Type} (r : Reader α) : Nat → Reader (List α)
  | 0 => fun bytes => if bytes.isEmpty then some ([], []) else none
  | fuel + 1 => fun bytes =>
      if bytes.isEmpty then some ([], [])
      else do
        let (value, rest) ← r bytes
        let (values, rest) ← repeatUpTo r fuel rest
        return (value :: values, rest)

/-- The values of the reader until the bytes are used up. -/
def toEnd {α : Type} (r : Reader α) : Reader (List α) := fun bytes =>
  repeatUpTo r bytes.length bytes

/-- The values inside the next element, which must have the tag. -/
def listInside {α : Type} (tag : UInt8) (r : Reader α) : Reader (List α) := inside tag (toEnd r)

/-- Passes over at most `fuel` context-specific elements with a number below `n`. -/
def skipBelow (n : UInt8) : Nat → Reader Unit
  | 0 => return ()
  | fuel + 1 => do
      match ← peek? with
      | some tag =>
          if Tag.isContextSpecific tag && Tag.number tag < n then do
            let _ ← element
            skipBelow n fuel
          else return ()
      | none => return ()

/-- The field with the number, read by `r`, if there is one. -/
def field {α : Type} (n : UInt8) (r : Reader α) : Reader (Option α) := do
  let rest ← get
  skipBelow n rest.length
  match ← peek? with
  | some tag =>
      if Tag.isContextSpecific tag && Tag.number tag == n then some <$> r else return none
  | none => return none

/-- The field with the number, which wraps a whole element. -/
def explicitField {α : Type} (n : UInt8) (r : Reader α) : Reader (Option α) :=
  field n (inside (Tag.contextConstructed n) r)

/-! ## Values -/

/-- Whether the bytes are the shortest form of a signed integer. -/
def isMinimalInteger : Bytes → Bool
  | [] => false
  | [_] => true
  | first :: second :: _ =>
      !((first == 0x00 && second < 0x80) || (first == 0xff && second ≥ 0x80))

/-- The bytes of an integer in its shortest form. -/
def integer : Reader Bytes := do
  let bytes ← content Tag.integer
  if isMinimalInteger bytes then return bytes else fail

/-- An integer between zero and `max`, which is below 128. -/
def smallInteger (max : UInt8) : Reader UInt8 := do
  match ← integer with
  | [n] => if n ≤ max then return n else fail
  | _ => fail

/-- Whether the content is that of a bit string: the number of unused bits and the bits. -/
def isBitString : Bytes → Bool
  | [] => false
  | unused :: bits => unused ≤ 7 && (unused == 0 || !bits.isEmpty)

/-- A bit string, with the number of unused bits in front. -/
def bitString (tag : UInt8) : Reader Bytes := do
  let bytes ← content tag
  if isBitString bytes then return bytes else fail

/-- A truth value. -/
def boolean : Reader Bool := do
  match ← content Tag.boolean with
  | [0x00] => return false
  | [0xff] => return true
  | _ => fail

end Reader

end AdvancedSignature.Der
