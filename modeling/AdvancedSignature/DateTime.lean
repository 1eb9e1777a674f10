/-!
# Dates and times

Points in time to the second, in the range and calendar of certificates: from 1970 to 9999, in
universal time and without leap seconds.  A `DateTime` carries the proof that it names a real
day and time of day.
-/

namespace AdvancedSignature

/-- Whether the year has a 29th of February. -/
def isLeapYear (year : Nat) : Bool :=
  year % 4 == 0 && (year % 100 != 0 || year % 400 == 0)

/-- The number of days of a month, zero when there is no such month. -/
def daysInMonth (year month : Nat) : Nat :=
  match month with
  | 1 | 3 | 5 | 7 | 8 | 10 | 12 => 31
  | 4 | 6 | 9 | 11 => 30
  | 2 => if isLeapYear year then 29 else 28
  | _ => 0

/-- A point in time, to the second. -/
structure DateTime where
  year : Nat
  month : Nat
  day : Nat
  hour : Nat
  minute : Nat
  second : Nat
  year_mem : 1970 ≤ year ∧ year ≤ 9999
  day_mem : 1 ≤ day ∧ day ≤ daysInMonth year month
  time_mem : hour ≤ 23 ∧ minute ≤ 59 ∧ second ≤ 59
  deriving DecidableEq

namespace DateTime

/-- The point in time with the given fields, if there is one. -/
def ofFields? (year month day hour minute second : Nat) : Option DateTime :=
  if hy : 1970 ≤ year ∧ year ≤ 9999 then
    if hd : 1 ≤ day ∧ day ≤ daysInMonth year month then
      if ht : hour ≤ 23 ∧ minute ≤ 59 ∧ second ≤ 59 then
        some ⟨year, month, day, hour, minute, second, hy, hd, ht⟩
      else none
    else none
  else none

/-- A number in decimal, filled with zeros from the left to the given width. -/
def padded (width n : Nat) : String :=
  let digits := toString n
  String.ofList (List.replicate (width - digits.length) '0') ++ digits

/-- The time in the form `YYYY-MM-DDTHH:MM:SSZ`. -/
def render (t : DateTime) : String :=
  padded 4 t.year ++ "-" ++ padded 2 t.month ++ "-" ++ padded 2 t.day ++ "T" ++
    padded 2 t.hour ++ ":" ++ padded 2 t.minute ++ ":" ++ padded 2 t.second ++ "Z"

/-- The fields of a time give it back. -/
theorem ofFields?_fields (t : DateTime) :
    ofFields? t.year t.month t.day t.hour t.minute t.second = some t := by
  simp [ofFields?, t.year_mem, t.day_mem, t.time_mem]

end DateTime

end AdvancedSignature
