/-!
# Byte strings

A byte string is a list of bytes, so that its laws are those of lists.
-/

namespace AdvancedSignature

/-- A byte string. -/
abbrev Bytes := List UInt8

namespace Bytes

/-- The bytes of a text in UTF-8. -/
def ofString (s : String) : Bytes := s.toUTF8.data.toList

/-- The text that the bytes are the UTF-8 form of, if there is one. -/
def toString? (bytes : Bytes) : Option String := String.fromUTF8? ⟨bytes.toArray⟩

/-- A text is read back from its UTF-8 form. -/
theorem toString?_ofString (s : String) : toString? (ofString s) = some s :=
  dif_pos s.isValidUTF8

/-- The unsigned number that the bytes are the big-endian form of. -/
def toNat (bytes : Bytes) : Nat := bytes.foldl (fun n b => n * 256 + b.toNat) 0

end Bytes

end AdvancedSignature
