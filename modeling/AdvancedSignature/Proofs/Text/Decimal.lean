import AdvancedSignature.Text.Decimal
import Mathlib

/-!
# Exact decimal text

`Decimal.render` against the numbers that byte strings stand for.

* `Bytes.toNat_eq_toNat_iff`: byte strings stand for one number when they differ in leading zeros
  only.
* `Decimal.Moment` is the conversion between two of its steps: which digits the present byte has
  been carried into, which are ahead, and the carry.  A step keeps digits below ten and the carry
  below 256 (`Moment.InRange.next`), which is why words of 32 bits and bytes are enough.
* `Decimal.render_isExact`: the text is the decimal numeral of the number.
-/

namespace AdvancedSignature

/-! ## The number of a byte string -/

namespace Bytes

theorem toNat_append_singleton (bytes : Bytes) (b : UInt8) :
    toNat (bytes ++ [b]) = bytes.toNat * 256 + b.toNat := by
  rw [toNat, List.foldl_append]
  rfl

theorem toNat_eq_ofDigits (bytes : Bytes) :
    bytes.toNat = Nat.ofDigits 256 (bytes.reverse.map UInt8.toNat) := by
  induction bytes using List.reverseRecOn with
  | nil => rfl
  | append_singleton bytes b ih =>
    rw [toNat_append_singleton, ih, List.reverse_concat, List.map_cons, Nat.ofDigits_cons]
    omega

/-- Leading zeros do not count. -/
theorem toNat_dropWhile (bytes : Bytes) : toNat (bytes.dropWhile (· == 0)) = bytes.toNat := by
  induction bytes with
  | nil => rfl
  | cons b rest ih =>
    by_cases hb : b = 0
    · subst hb
      exact ih
    · rw [List.dropWhile_cons_of_neg (by simpa using hb)]

/-- The bytes after the leading zeros are the digits of the number to the base 256. -/
theorem digits_toNat (bytes : Bytes) :
    Nat.digits 256 bytes.toNat = (bytes.dropWhile (· == 0)).reverse.map UInt8.toNat := by
  rw [← toNat_dropWhile, toNat_eq_ofDigits]
  refine Nat.digits_ofDigits 256 (by decide) _ ?_ fun hne => ?_
  · intro n hn
    obtain ⟨b, -, rfl⟩ := List.mem_map.1 hn
    exact b.toNat_lt
  · have hne' : bytes.dropWhile (· == 0) ≠ [] := by simpa using hne
    have hhead := List.head_dropWhile_not (· == 0) hne'
    rw [List.getLast_map, List.getLast_reverse]
    intro hzero
    simp [← UInt8.toNat_inj, hzero] at hhead

/-- **Byte strings stand for one number when they differ in leading zeros only.** -/
theorem toNat_eq_toNat_iff {a b : Bytes} :
    a.toNat = b.toNat ↔ a.dropWhile (· == 0) = b.dropWhile (· == 0) := by
  constructor
  · intro h
    have hdigits := digits_toNat a
    rw [h, digits_toNat b] at hdigits
    have hinjective : Function.Injective UInt8.toNat := fun _ _ => UInt8.toNat_inj.1
    exact List.reverse_injective ((List.map_injective_iff.2 hinjective) hdigits.symm)
  · intro h
    rw [← toNat_dropWhile a, h, toNat_dropWhile]

end Bytes

namespace Decimal

/-! ## Digits in range -/

/-- Digits are below ten. -/
def AreDigits (ds : List UInt8) : Prop := ∀ d ∈ ds, d.toNat < 10

theorem lowDigit_lt (v : UInt32) : (lowDigit v).toNat < 10 := by
  rw [toNat_lowDigit]
  exact Nat.mod_lt _ (by decide)

/-- What is carried on from a digit is a carry again. -/
theorem toNat_scaled_div_ten_le {d : UInt8} {carry : UInt32} (hd : d.toNat < 10)
    (hcarry : carry.toNat ≤ 255) : (scaled d carry / 10).toNat ≤ 255 := by
  rw [toNat_div_ten, toNat_scaled hd hcarry]
  omega

theorem areDigits_spill (carry : UInt32) : AreDigits (spill carry) := by
  fun_induction spill carry with
  | case1 => exact List.forall_mem_nil _
  | case2 carry _ ih => exact List.forall_mem_cons.2 ⟨lowDigit_lt carry, ih⟩

theorem areDigits_carryInto (ds : List UInt8) (carry : UInt32) : AreDigits (carryInto ds carry) := by
  induction ds generalizing carry with
  | nil => exact areDigits_spill carry
  | cons d rest ih => exact List.forall_mem_cons.2 ⟨lowDigit_lt _, ih _⟩

/-- Carrying into the digits multiplies by 256 and adds the carry. -/
theorem value_carryInto {ds : List UInt8} (hds : AreDigits ds) {carry : UInt32}
    (hcarry : carry.toNat ≤ 255) : value (carryInto ds carry) = value ds * 256 + carry.toNat := by
  induction ds generalizing carry with
  | nil => rw [carryInto, value_spill, value, Nat.zero_mul, Nat.zero_add]
  | cons d rest ih =>
    obtain ⟨hd, hrest⟩ := List.forall_mem_cons.1 hds
    rw [carryInto, value, value, ih hrest (toNat_scaled_div_ten_le hd hcarry), toNat_lowDigit,
      toNat_div_ten, toNat_scaled hd hcarry]
    omega

/-! ## The first digit -/

/-- The first digit that is written is not zero; it is the last of the list. -/
def LeadsNonzero (ds : List UInt8) : Prop := ∃ d, ds.getLast? = some d ∧ d.toNat ≠ 0

theorem LeadsNonzero.cons {ds : List UInt8} (h : LeadsNonzero ds) (d : UInt8) :
    LeadsNonzero (d :: ds) := by
  obtain ⟨last, hlast, hne⟩ := h
  exact ⟨last, by rw [List.getLast?_cons, hlast]; rfl, hne⟩

theorem leadsNonzero_spill {carry : UInt32} (h : carry.toNat ≠ 0) : LeadsNonzero (spill carry) := by
  fun_induction spill carry with
  | case1 => exact absurd rfl h
  | case2 carry _ ih =>
    by_cases hmore : (carry / 10).toNat = 0
    · -- a carry below ten is spilled as itself
      have hnil : spill (carry / 10) = [] := by
        rw [spill, if_pos (UInt32.toNat_inj.1 hmore)]
      refine ⟨lowDigit carry, by rw [hnil]; rfl, ?_⟩
      rw [toNat_lowDigit]
      rw [toNat_div_ten] at hmore
      omega
    · exact (ih hmore).cons _

/-- A first digit other than zero makes a carry, so that there is one again. -/
theorem LeadsNonzero.carryInto {ds : List UInt8} (hds : AreDigits ds) (h : LeadsNonzero ds)
    {carry : UInt32} (hcarry : carry.toNat ≤ 255) : LeadsNonzero (carryInto ds carry) := by
  induction ds generalizing carry with
  | nil =>
    obtain ⟨d, hd, -⟩ := h
    cases hd
  | cons d rest ih =>
    obtain ⟨hd, hrest⟩ := List.forall_mem_cons.1 hds
    refine LeadsNonzero.cons ?_ _
    cases rest with
    | nil =>
      obtain ⟨last, hlast, hne⟩ := h
      obtain rfl : d = last := by simpa using hlast
      refine leadsNonzero_spill ?_
      rw [toNat_div_ten, toNat_scaled hd hcarry]
      omega
    | cons d' rest =>
      obtain ⟨last, hlast, hne⟩ := h
      exact ih hrest ⟨last, hlast, hne⟩ (toNat_scaled_div_ten_le hd hcarry)

/-- The digits of a number, with no zero in front of others. -/
structure IsNumeral (ds : List UInt8) : Prop where
  areDigits : AreDigits ds
  first : ds = [0] ∨ LeadsNonzero ds

theorem IsNumeral.carryInto {ds : List UInt8} (h : IsNumeral ds) {carry : UInt32}
    (hcarry : carry.toNat ≤ 255) : IsNumeral (carryInto ds carry) where
  areDigits := areDigits_carryInto ds carry
  first := by
    rcases h.first with rfl | hfirst
    · by_cases hmore : (scaled 0 carry / 10).toNat = 0
      · -- a number of one digit, which may be zero
        have hnil : spill (scaled 0 carry / 10) = [] := by
          rw [spill, if_pos (UInt32.toNat_inj.1 hmore)]
        rw [Decimal.carryInto, Decimal.carryInto, hnil]
        by_cases hzero : (lowDigit (scaled 0 carry)).toNat = 0
        · exact Or.inl (congrArg (· :: []) (UInt8.toNat_inj.1 hzero))
        · exact Or.inr ⟨_, rfl, hzero⟩
      · exact Or.inr ((leadsNonzero_spill hmore).cons _)
    · exact Or.inr (hfirst.carryInto h.areDigits hcarry)

/-- Reading the bytes keeps a numeral, and what it stands for. -/
theorem isNumeral_foldl {ds : List UInt8} (h : IsNumeral ds) (bytes : Bytes) :
    IsNumeral (bytes.foldl (fun ds b => carryInto ds b.toUInt32) ds) ∧
      value (bytes.foldl (fun ds b => carryInto ds b.toUInt32) ds) =
        bytes.foldl (fun n b => n * 256 + b.toNat) (value ds) := by
  induction bytes generalizing ds with
  | nil => exact ⟨h, rfl⟩
  | cons b rest ih =>
    have hb : b.toUInt32.toNat ≤ 255 := Nat.le_of_lt_succ b.toNat_lt
    have ih := ih (h.carryInto hb)
    rwa [value_carryInto h.areDigits hb] at ih

theorem isNumeral_digits (bytes : Bytes) : IsNumeral (digits bytes) :=
  (isNumeral_foldl ⟨by simp [AreDigits], Or.inl rfl⟩ bytes).1

theorem value_digits (bytes : Bytes) : value (digits bytes) = bytes.toNat :=
  (isNumeral_foldl ⟨by simp [AreDigits], Or.inl rfl⟩ bytes).2

/-! ## The text -/

theorem digitChar_eq {d : UInt8} (hd : d.toNat < 10) : digitChar d = Nat.digitChar d.toNat := by
  obtain ⟨n, hn, rfl⟩ : ∃ n < 10, d = UInt8.ofNat n := ⟨d.toNat, hd, by simp⟩
  interval_cases n <;> rfl

theorem LeadsNonzero.value_pos {ds : List UInt8} (h : LeadsNonzero ds) : 0 < value ds := by
  induction ds with
  | nil =>
    obtain ⟨d, hd, -⟩ := h
    cases hd
  | cons d rest ih =>
    rw [value]
    cases rest with
    | nil =>
      obtain ⟨last, hlast, hne⟩ := h
      obtain rfl : d = last := by simpa using hlast
      omega
    | cons d' rest =>
      have := ih h
      omega

/-- Digits in their order are those of the number that they stand for. -/
theorem LeadsNonzero.toDigits_value {ds : List UInt8} (h : LeadsNonzero ds) (hds : AreDigits ds) :
    Nat.toDigits 10 (value ds) = ds.reverse.map digitChar := by
  induction ds with
  | nil =>
    obtain ⟨d, hd, -⟩ := h
    cases hd
  | cons d rest ih =>
    obtain ⟨hd, hrest⟩ := List.forall_mem_cons.1 hds
    cases rest with
    | nil => simp [value, Nat.toDigits_of_lt_base hd, digitChar_eq hd]
    | cons d' rest =>
      have hlead : LeadsNonzero (d' :: rest) := h
      rw [value, Nat.add_comm, ← Nat.toDigits_append_toDigits (by decide) hlead.value_pos hd,
        ih hlead hrest, Nat.toDigits_of_lt_base hd, ← digitChar_eq hd]
      simp only [List.reverse_cons, List.map_append, List.map_cons, List.map_nil]

theorem IsNumeral.toDigits_value {ds : List UInt8} (h : IsNumeral ds) :
    Nat.toDigits 10 (value ds) = ds.reverse.map digitChar := by
  rcases h.first with rfl | hfirst
  · rfl
  · exact hfirst.toDigits_value h.areDigits

/-- The text is the decimal numeral of the number. -/
theorem render_eq_toString (bytes : Bytes) : render bytes = toString bytes.toNat := by
  rw [Nat.toString_eq_ofList_toDigits, ← value_digits, (isNumeral_digits bytes).toDigits_value]
  rfl

theorem render_eq_render_iff {a b : Bytes} : render a = render b ↔ a.toNat = b.toNat := by
  rw [render_eq_toString, render_eq_toString]
  exact Nat.repr_inj

/-! ## Between the steps -/

/-- The conversion between two steps. -/
structure Moment where
  /-- The bytes after the present one. -/
  unread : Bytes
  /-- The digits that the present byte has been carried into, with those that it has added. -/
  passed : List UInt8
  /-- The digits that the present byte has still to be carried into. -/
  ahead : List UInt8
  carry : UInt32
  deriving DecidableEq, Repr

namespace Moment

/-- Before the first byte. -/
def start (bytes : Bytes) : Moment := ⟨bytes, [0], [], 0⟩

/-- The next step: the carry goes into a digit, or it adds one, or else the next byte is read. -/
def next? : Moment → Option Moment
  | ⟨unread, passed, d :: ahead, carry⟩ =>
      some ⟨unread, passed ++ [lowDigit (scaled d carry)], ahead, scaled d carry / 10⟩
  | ⟨unread, passed, [], carry⟩ =>
      if carry ≠ 0 then some ⟨unread, passed ++ [lowDigit carry], [], carry / 10⟩
      else match unread with
        | [] => none
        | b :: rest => some ⟨rest, [], passed, b.toUInt32⟩

/-- The second moment comes after the first, in any number of steps. -/
def LeadsTo : Moment → Moment → Prop := Relation.ReflTransGen fun m m' => m.next? = some m'

theorem leadsTo_spill (unread : Bytes) (passed : List UInt8) (carry : UInt32) :
    LeadsTo ⟨unread, passed, [], carry⟩ ⟨unread, passed ++ spill carry, [], 0⟩ := by
  fun_induction spill carry generalizing passed with
  | case1 =>
    rw [List.append_nil]
    exact .refl
  | case2 carry hne ih =>
    have hstep : next? ⟨unread, passed, [], carry⟩ =
        some ⟨unread, passed ++ [lowDigit carry], [], carry / 10⟩ := if_pos hne
    have hrest := ih (passed ++ [lowDigit carry])
    rw [List.append_assoc, List.singleton_append] at hrest
    exact .head hstep hrest

theorem leadsTo_carryInto (unread : Bytes) (passed ds : List UInt8) (carry : UInt32) :
    LeadsTo ⟨unread, passed, ds, carry⟩ ⟨unread, passed ++ carryInto ds carry, [], 0⟩ := by
  induction ds generalizing passed carry with
  | nil => exact leadsTo_spill unread passed carry
  | cons d rest ih =>
    have hrest := ih (passed ++ [lowDigit (scaled d carry)]) (scaled d carry / 10)
    rw [List.append_assoc, List.singleton_append] at hrest
    exact .head rfl hrest

/-- All bytes are read in the end. -/
theorem leadsTo_foldl (bytes : Bytes) (ds : List UInt8) :
    LeadsTo ⟨bytes, ds, [], 0⟩
      ⟨[], bytes.foldl (fun ds b => carryInto ds b.toUInt32) ds, [], 0⟩ := by
  induction bytes generalizing ds with
  | nil => exact .refl
  | cons b rest ih =>
    have hbyte : LeadsTo ⟨b :: rest, ds, [], 0⟩ ⟨rest, carryInto ds b.toUInt32, [], 0⟩ :=
      .head rfl (leadsTo_carryInto rest [] ds b.toUInt32)
    exact hbyte.trans (ih _)

/-- Digits and the carry are in range. -/
structure InRange (m : Moment) : Prop where
  digits : AreDigits (m.passed ++ m.ahead)
  carry : m.carry.toNat ≤ 255

theorem inRange_start (bytes : Bytes) : (start bytes).InRange :=
  ⟨by simp [start, AreDigits], Nat.zero_le _⟩

/-- A step keeps digits and the carry in range. -/
theorem InRange.next {m m' : Moment} (h : m.InRange) (hnext : m.next? = some m') :
    m'.InRange := by
  obtain ⟨unread, passed, ahead, carry⟩ := m
  obtain ⟨hdigits, hcarry⟩ := h
  obtain ⟨hpassed, hahead⟩ := List.forall_mem_append.1 hdigits
  have hextend (v : UInt32) : AreDigits (passed ++ [lowDigit v]) :=
    List.forall_mem_append.2 ⟨hpassed, List.forall_mem_singleton.2 (lowDigit_lt v)⟩
  cases ahead with
  | cons d ahead =>
    obtain ⟨hd, hahead⟩ := List.forall_mem_cons.1 hahead
    obtain rfl := Option.some.inj hnext
    exact ⟨List.forall_mem_append.2 ⟨hextend _, hahead⟩, toNat_scaled_div_ten_le hd hcarry⟩
  | nil =>
    simp only [next?] at hnext
    split_ifs at hnext with hzero
    · obtain rfl := Option.some.inj hnext
      refine ⟨List.forall_mem_append.2 ⟨hextend carry, List.forall_mem_nil _⟩, ?_⟩
      exact (toNat_div_ten carry).trans_le ((Nat.div_le_self _ _).trans hcarry)
    · cases unread with
      | nil => cases hnext
      | cons b rest =>
        obtain rfl := Option.some.inj hnext
        exact ⟨hpassed, Nat.le_of_lt_succ b.toNat_lt⟩

theorem InRange.leadsTo {m m' : Moment} (h : m.InRange) (hlater : m.LeadsTo m') : m'.InRange := by
  induction hlater with
  | refl => exact h
  | tail _ hnext ih => exact ih.next hnext

/-- Nothing is lost: digits and the carry are in range, and what the next step makes of them in
words and bytes is what it is for numbers without bounds. -/
structure IsExact (m : Moment) : Prop where
  digits : ∀ d ∈ m.passed ++ m.ahead, d.toNat < 10
  carry : m.carry.toNat ≤ 255
  /-- Carrying into the next digit. -/
  carried : ∀ d ∈ m.ahead.head?, (scaled d m.carry).toNat = d.toNat * 256 + m.carry.toNat ∧
    (lowDigit (scaled d m.carry)).toNat = (d.toNat * 256 + m.carry.toNat) % 10 ∧
    (scaled d m.carry / 10).toNat = (d.toNat * 256 + m.carry.toNat) / 10
  /-- Adding a digit. -/
  spilled : (lowDigit m.carry).toNat = m.carry.toNat % 10 ∧
    (m.carry / 10).toNat = m.carry.toNat / 10

theorem InRange.isExact {m : Moment} (h : m.InRange) : m.IsExact where
  digits := h.digits
  carry := h.carry
  carried d hd := by
    have hmem : d ∈ m.passed ++ m.ahead := List.mem_append_right _ (List.mem_of_mem_head? hd)
    have hscaled := toNat_scaled (h.digits d hmem) h.carry
    rw [toNat_lowDigit, toNat_div_ten, hscaled]
    exact ⟨rfl, rfl, rfl⟩
  spilled := ⟨toNat_lowDigit m.carry, toNat_div_ten m.carry⟩

end Moment

/-- **Long numbers are written exactly.**  The text of a byte string of any length is the decimal
numeral of the number that it stands for.  On the way to it every digit stays below ten and every
carry is at most 255, so that words and bytes lose nothing, and the way ends with the digits that are
written.  Byte strings have the same text when they differ in leading zeros only. -/
theorem render_isExact (bytes : Bytes) :
    render bytes = toString bytes.toNat ∧
      (∀ m, (Moment.start bytes).LeadsTo m → m.IsExact) ∧
      (∃ m, (Moment.start bytes).LeadsTo m ∧ m.next? = none ∧ m.passed = digits bytes) ∧
      ∀ bytes', render bytes = render bytes' ↔
        bytes.dropWhile (· == 0) = bytes'.dropWhile (· == 0) := by
  refine ⟨render_eq_toString bytes, fun m hm => ?_, ?_, fun bytes' => ?_⟩
  · exact ((Moment.inRange_start bytes).leadsTo hm).isExact
  · exact ⟨⟨[], digits bytes, [], 0⟩, Moment.leadsTo_foldl bytes [0], rfl, rfl⟩
  · rw [render_eq_render_iff, Bytes.toNat_eq_toNat_iff]

/-- The number 4660 in the middle of its second byte, with a carry of 210 into the digit 1. -/
theorem render_isExact_of_two_bytes :
    let m : Moment := ⟨[], [0], [1], 210⟩
    (Moment.start [0x12, 0x34]).LeadsTo m ∧ m.IsExact ∧
      render [0x12, 0x34] = toString (Bytes.toNat [0x12, 0x34]) ∧
      render [0x12, 0x34] = "4660" ∧ render [0x00, 0x12, 0x34] = render [0x12, 0x34] := by
  intro m
  have hm : (Moment.start [0x12, 0x34]).LeadsTo m :=
    .head (b := ⟨[0x34], [], [0], 0x12⟩) (by decide +kernel) <|
      .head (b := ⟨[0x34], [8], [], 1⟩) (by decide +kernel) <|
      .head (b := ⟨[0x34], [8, 1], [], 0⟩) (by decide +kernel) <|
      .head (b := ⟨[], [], [8, 1], 0x34⟩) (by decide +kernel) <|
      .single (by decide +kernel)
  obtain ⟨hnumeral, hexact, -, hsame⟩ := render_isExact [0x12, 0x34]
  refine ⟨hm, hexact m hm, hnumeral, hnumeral, ?_⟩
  exact ((hsame [0x00, 0x12, 0x34]).2 rfl).symm

end Decimal

end AdvancedSignature
