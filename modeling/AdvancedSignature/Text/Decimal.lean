import AdvancedSignature.Bytes

/-!
# Decimal text of long numbers

The decimal digits of an unsigned number given by its big-endian bytes.  The digits are kept
with the least significant first, and each byte multiplies the number by 256 and adds itself:
`carryInto` runs through the digits that are there and `spill` puts what is left over behind
them.  A digit is kept in a byte and computed in a word of 32 bits; as long as digits are below ten
and the carry is at most 255, nothing is lost by that (`toNat_scaled`, `toNat_lowDigit`).
-/

namespace AdvancedSignature.Decimal

/-- A digit times 256 plus the carry. -/
def scaled (d : UInt8) (carry : UInt32) : UInt32 := d.toUInt32 * 256 + carry

/-- The last digit of a word. -/
def lowDigit (v : UInt32) : UInt8 := (v % 10).toUInt8

/-- The digits of a word, least significant first; zero has none. -/
def spill (carry : UInt32) : List UInt8 :=
  if carry = 0 then [] else lowDigit carry :: spill (carry / 10)
termination_by carry.toNat
decreasing_by
  rename_i hcarry
  have hne : carry.toNat ≠ 0 := fun h => hcarry (UInt32.toNat_inj.1 h)
  rw [UInt32.toNat_div]
  exact Nat.div_lt_self (Nat.pos_of_ne_zero hne) (by decide)

/-- The digits times 256 plus the carry. -/
def carryInto : List UInt8 → UInt32 → List UInt8
  | [], carry => spill carry
  | d :: rest, carry => lowDigit (scaled d carry) :: carryInto rest (scaled d carry / 10)

/-- The digits of the number the bytes stand for, least significant first. -/
def digits (bytes : Bytes) : List UInt8 :=
  bytes.foldl (fun ds b => carryInto ds b.toUInt32) [0]

/-- The character of a digit. -/
def digitChar (d : UInt8) : Char := Char.ofUInt8 (48 + d)

/-- The number the bytes stand for, in decimal. -/
def render (bytes : Bytes) : String :=
  String.ofList ((digits bytes).reverse.map digitChar)

/-- A digit and the carry fit the word. -/
theorem toNat_scaled {d : UInt8} {carry : UInt32} (hd : d.toNat < 10) (hcarry : carry.toNat ≤ 255) :
    (scaled d carry).toNat = d.toNat * 256 + carry.toNat := by
  simp only [scaled, UInt32.toNat_add, UInt32.toNat_mul, UInt8.toNat_toUInt32,
    UInt32.reduceToNat]
  omega

/-- A last digit fits the byte. -/
theorem toNat_lowDigit (v : UInt32) : (lowDigit v).toNat = v.toNat % 10 := by
  simp only [lowDigit, UInt32.toNat_toUInt8, UInt32.toNat_mod, UInt32.reduceToNat]
  omega

theorem toNat_div_ten (v : UInt32) : (v / 10).toNat = v.toNat / 10 := UInt32.toNat_div v 10

/-- The number that a list of digits stands for. -/
def value : List UInt8 → Nat
  | [] => 0
  | d :: rest => d.toNat + 10 * value rest

/-- What is spilled stands for the carry. -/
theorem value_spill (carry : UInt32) : value (spill carry) = carry.toNat := by
  fun_induction spill carry with
  | case1 => rfl
  | case2 carry _ ih =>
    rw [value, ih, toNat_lowDigit, toNat_div_ten]
    omega

end AdvancedSignature.Decimal
