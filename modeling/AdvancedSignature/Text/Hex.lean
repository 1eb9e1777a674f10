import AdvancedSignature.Bytes

/-!
# Hexadecimal text

Bytes written as two digits each.  Writing uses lower-case letters, reading takes either case,
and reading what was written gives the bytes back (`decode_encode`).
-/

namespace AdvancedSignature.Hex

/-- The digit of a value below sixteen. -/
def digit (n : Nat) : Char :=
  if n < 10 then Char.ofNat (48 + n) else Char.ofNat (87 + n)

/-- The value of a digit. -/
def value? (c : Char) : Option Nat :=
  if '0' ≤ c ∧ c ≤ '9' then some (c.toNat - 48)
  else if 'a' ≤ c ∧ c ≤ 'f' then some (c.toNat - 87)
  else if 'A' ≤ c ∧ c ≤ 'F' then some (c.toNat - 55)
  else none

/-- The digits of the bytes, high half first. -/
def encode : Bytes → List Char
  | [] => []
  | b :: rest => digit (b.toNat / 16) :: digit (b.toNat % 16) :: encode rest

/-- The bytes that the digits are written for; refuses an odd digit and all else. -/
def decode : List Char → Option Bytes
  | [] => some []
  | high :: low :: rest => do
      let h ← value? high
      let l ← value? low
      let bytes ← decode rest
      return UInt8.ofNat (16 * h + l) :: bytes
  | [_] => none

/-- The digits of the bytes as text. -/
def render (bytes : Bytes) : String := String.ofList (encode bytes)

/-- The bytes that the text is written for. -/
def parse? (s : String) : Option Bytes := decode s.toList

/-- A digit has the value it was written for. -/
theorem value?_digit {n : Nat} (h : n < 16) : value? (digit n) = some n := by
  have all : ∀ k : Fin 16, value? (digit k) = some k.val := by decide
  exact all ⟨n, h⟩

/-- Reading what was written gives the bytes back. -/
theorem decode_encode (bytes : Bytes) : decode (encode bytes) = some bytes := by
  induction bytes with
  | nil => rfl
  | cons b rest ih =>
    have hb := b.toNat_lt
    have value : 16 * (b.toNat / 16) + b.toNat % 16 = b.toNat := by omega
    simp only [encode, decode, value?_digit (show b.toNat / 16 < 16 by omega),
      value?_digit (show b.toNat % 16 < 16 by omega), ih, Option.bind_eq_bind, Option.bind_some,
      value, UInt8.ofNat_toNat]
    rfl

end AdvancedSignature.Hex
