/-!
# White space

The characters with the Unicode property `White_Space`, and the text between them.
-/

namespace AdvancedSignature.Blank

/-- The code points with the property `White_Space`, as ranges. -/
def ranges : List (Nat × Nat) :=
  [(0x09, 0x0d), (0x20, 0x20), (0x85, 0x85), (0xa0, 0xa0), (0x1680, 0x1680), (0x2000, 0x200a),
    (0x2028, 0x2029), (0x202f, 0x202f), (0x205f, 0x205f), (0x3000, 0x3000)]

/-- Whether the character is white space. -/
def isBlank (c : Char) : Bool := ranges.any fun r => r.1 ≤ c.toNat && c.toNat ≤ r.2

/-- The text without white space in front and at the end. -/
def trimChars (cs : List Char) : List Char :=
  ((cs.dropWhile isBlank).reverse.dropWhile isBlank).reverse

/-- The text without white space in front and at the end. -/
def trim (s : String) : String := String.ofList (trimChars s.toList)

end AdvancedSignature.Blank
