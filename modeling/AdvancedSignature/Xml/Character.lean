/-!
# Characters of XML

The character classes of XML 1.0: white space, the characters a document may hold, and those that
start or continue a name.
-/

namespace AdvancedSignature.Xml

/-- Whether the character is XML white space. -/
def isSpace (c : Char) : Bool := c == ' ' || c == '\t' || c == '\n' || c == '\r'

/-- Whether a document may hold the character. -/
def isDocumentChar (c : Char) : Bool :=
  if c.toNat < 0x20 then isSpace c else c.toNat != 0xfffe && c.toNat != 0xffff

/-- Whether the code point is in one of the ranges. -/
def inRanges (ranges : List (Nat × Nat)) (c : Char) : Bool :=
  ranges.any fun r => r.1 ≤ c.toNat && c.toNat ≤ r.2

/-- The code points that may start a name. -/
def nameStartRanges : List (Nat × Nat) :=
  [(0x3a, 0x3a), (0x41, 0x5a), (0x5f, 0x5f), (0x61, 0x7a), (0xc0, 0xd6), (0xd8, 0xf6),
    (0xf8, 0x2ff), (0x370, 0x37d), (0x37f, 0x1fff), (0x200c, 0x200d), (0x2070, 0x218f),
    (0x2c00, 0x2fef), (0x3001, 0xd7ff), (0xf900, 0xfdcf), (0xfdf0, 0xfffd), (0x10000, 0xeffff)]

/-- The further code points that may continue a name. -/
def nameRestRanges : List (Nat × Nat) :=
  [(0x2d, 0x2e), (0x30, 0x39), (0xb7, 0xb7), (0x300, 0x36f), (0x203f, 0x2040)]

/-- Whether the character may start a name. -/
def isNameStart (c : Char) : Bool := inRanges nameStartRanges c

/-- Whether the character may continue a name. -/
def isNameChar (c : Char) : Bool := isNameStart c || inRanges nameRestRanges c

end AdvancedSignature.Xml
