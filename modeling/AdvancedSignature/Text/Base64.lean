import AdvancedSignature.Bytes

/-!
# Base64

The standard alphabet with padding, read strictly: the length is a multiple of four, padding
stands only at the end, and the bits that the padding leaves unused are zero.  Three bytes make
four characters.  Reading what was written gives the bytes back (`decode_encode`).
-/

namespace AdvancedSignature.Base64

/-- The character of a value below sixty-four. -/
def digit (n : Nat) : Char :=
  if n < 26 then Char.ofNat (65 + n)
  else if n < 52 then Char.ofNat (71 + n)
  else if n < 62 then Char.ofNat (n - 4)
  else if n = 62 then '+'
  else '/'

/-- The value of a character of the alphabet. -/
def value? (c : Char) : Option Nat :=
  if 'A' ≤ c ∧ c ≤ 'Z' then some (c.toNat - 65)
  else if 'a' ≤ c ∧ c ≤ 'z' then some (c.toNat - 71)
  else if '0' ≤ c ∧ c ≤ '9' then some (c.toNat + 4)
  else if c = '+' then some 62
  else if c = '/' then some 63
  else none

/-- The character that fills the last group. -/
def pad : Char := '='

/-- The characters of the bytes. -/
def encode : Bytes → List Char
  | [] => []
  | [a] => [digit (a.toNat / 4), digit (a.toNat % 4 * 16), pad, pad]
  | [a, b] =>
      [digit (a.toNat / 4), digit (a.toNat % 4 * 16 + b.toNat / 16), digit (b.toNat % 16 * 4), pad]
  | a :: b :: c :: rest =>
      digit (a.toNat / 4) :: digit (a.toNat % 4 * 16 + b.toNat / 16) ::
        digit (b.toNat % 16 * 4 + c.toNat / 64) :: digit (c.toNat % 64) :: encode rest

/-- The bytes of four values. -/
def group (a b c d : Nat) : Bytes :=
  [UInt8.ofNat (a * 4 + b / 16), UInt8.ofNat (b % 16 * 16 + c / 4), UInt8.ofNat (c % 4 * 64 + d)]

/-- The bytes that the characters are written for. -/
def decode : List Char → Option Bytes
  | [] => some []
  | a :: b :: c :: d :: rest => do
      let a ← value? a
      let b ← value? b
      if rest = [] ∧ d = pad then
        if c = pad then
          if b % 16 = 0 then some [UInt8.ofNat (a * 4 + b / 16)] else none
        else
          let c ← value? c
          if c % 4 = 0 then
            some [UInt8.ofNat (a * 4 + b / 16), UInt8.ofNat (b % 16 * 16 + c / 4)]
          else none
      else
        let c ← value? c
        let d ← value? d
        let bytes ← decode rest
        return group a b c d ++ bytes
  | _ => none

/-- The characters of the bytes as text. -/
def render (bytes : Bytes) : String := String.ofList (encode bytes)

/-- A character has the value it was written for. -/
theorem value?_digit {n : Nat} (h : n < 64) : value? (digit n) = some n := by
  have all : ∀ k : Fin 64, value? (digit k) = some k.val := by decide
  exact all ⟨n, h⟩

/-- The padding has no value. -/
theorem value?_pad : value? pad = none := by decide

/-- No character of the alphabet is the padding. -/
theorem digit_ne_pad {n : Nat} (h : n < 64) : digit n ≠ pad := by
  intro e
  have := value?_digit h
  rw [e, value?_pad] at this
  exact absurd this (by simp)

/-- Reading what was written gives the bytes back. -/
theorem decode_encode (bytes : Bytes) : decode (encode bytes) = some bytes := by
  induction bytes using encode.induct with
  | case1 => rfl
  | case2 a =>
    have ha := a.toNat_lt
    simp only [encode, decode, value?_digit (show a.toNat / 4 < 64 by omega),
      value?_digit (show a.toNat % 4 * 16 < 64 by omega), Option.bind_eq_bind, Option.bind_some,
      and_self, if_true]
    rw [if_pos (by omega), show a.toNat / 4 * 4 + a.toNat % 4 * 16 / 16 = a.toNat by omega]
    simp
  | case3 a b =>
    have ha := a.toNat_lt
    have hb := b.toNat_lt
    simp only [encode, decode, value?_digit (show a.toNat / 4 < 64 by omega),
      value?_digit (show a.toNat % 4 * 16 + b.toNat / 16 < 64 by omega),
      value?_digit (show b.toNat % 16 * 4 < 64 by omega), Option.bind_eq_bind, Option.bind_some,
      and_self, if_true, if_neg (digit_ne_pad (show b.toNat % 16 * 4 < 64 by omega))]
    rw [if_pos (by omega),
      show a.toNat / 4 * 4 + (a.toNat % 4 * 16 + b.toNat / 16) / 16 = a.toNat by omega,
      show (a.toNat % 4 * 16 + b.toNat / 16) % 16 * 16 + b.toNat % 16 * 4 / 4 = b.toNat by omega]
    simp
  | case4 a b c rest ih =>
    have ha := a.toNat_lt
    have hb := b.toNat_lt
    have hc := c.toNat_lt
    simp only [encode, decode, value?_digit (show a.toNat / 4 < 64 by omega),
      value?_digit (show a.toNat % 4 * 16 + b.toNat / 16 < 64 by omega),
      value?_digit (show b.toNat % 16 * 4 + c.toNat / 64 < 64 by omega),
      value?_digit (show c.toNat % 64 < 64 by omega), Option.bind_eq_bind, Option.bind_some,
      ih, digit_ne_pad (show c.toNat % 64 < 64 by omega), and_false, if_false, group]
    rw [show a.toNat / 4 * 4 + (a.toNat % 4 * 16 + b.toNat / 16) / 16 = a.toNat by omega,
      show (a.toNat % 4 * 16 + b.toNat / 16) % 16 * 16 + (b.toNat % 16 * 4 + c.toNat / 64) / 4 =
        b.toNat by omega,
      show (b.toNat % 16 * 4 + c.toNat / 64) % 4 * 64 + c.toNat % 64 = c.toNat by omega]
    simp

end AdvancedSignature.Base64
