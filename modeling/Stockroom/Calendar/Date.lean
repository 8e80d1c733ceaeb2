/-! # Calendar dates

The proleptic Gregorian calendar of the years 1 to 9999. A date is numbered by the days before it,
counted from 1 January of year 1, and that number is what dates are compared by.
-/
namespace Stockroom

def isLeapYear (year : Nat) : Bool := year % 4 == 0 && (year % 100 != 0 || year % 400 == 0)

def daysInMonth (year : Nat) : Nat → Nat
  | 2 => if isLeapYear year then 29 else 28
  | 4 => 30
  | 6 => 30
  | 9 => 30
  | 11 => 30
  | _ => 31

def DayExists (year month day : Nat) : Prop :=
  1 ≤ month ∧ month ≤ 12 ∧ 1 ≤ day ∧ day ≤ daysInMonth year month

instance (year month day : Nat) : Decidable (DayExists year month day) := by
  unfold DayExists; infer_instance

structure Date where
  year : Nat
  month : Nat
  day : Nat
  one_le_year : 1 ≤ year
  year_le : year ≤ 9999
  day_exists : DayExists year month day
  deriving DecidableEq, Repr

namespace Date

def of? (year month day : Nat) : Option Date :=
  if h : 1 ≤ year ∧ year ≤ 9999 ∧ DayExists year month day then
    some ⟨year, month, day, h.1, h.2.1, h.2.2⟩
  else none

theorem of?_self (d : Date) : of? d.year d.month d.day = some d := by
  simp [of?, d.one_le_year, d.year_le, d.day_exists]

def daysBeforeYear (year : Nat) : Nat :=
  let y := year - 1
  365 * y + y / 4 - y / 100 + y / 400

def daysBeforeMonth (year month : Nat) : Nat :=
  (List.range (month - 1)).foldl (fun days m => days + daysInMonth year (m + 1)) 0

def dayNumber (d : Date) : Nat :=
  daysBeforeYear d.year + daysBeforeMonth d.year d.month + (d.day - 1)

def epochDay : Nat := 719162

/-- The days before 1 March of year 0 in the count that starts with 1 January of year 1. -/
private def marchShift : Nat := 306

/-- The year, month and day of a day number. Years are reckoned from March, so that the leap day
comes last: 146097 days make four centuries, and the months from March on repeat a pattern of 153
days every five months. -/
def partsOfDayNumber (n : Nat) : Nat × Nat × Nat :=
  let z := n + marchShift
  let era := z / 146097
  let dayOfEra := z % 146097
  let yearOfEra := (dayOfEra - dayOfEra / 1460 + dayOfEra / 36524 - dayOfEra / 146096) / 365
  let dayOfYear := dayOfEra - (365 * yearOfEra + yearOfEra / 4 - yearOfEra / 100)
  let shifted := (5 * dayOfYear + 2) / 153
  let day := dayOfYear - (153 * shifted + 2) / 5 + 1
  let month := if shifted < 10 then shifted + 3 else shifted - 9
  (era * 400 + yearOfEra + if month ≤ 2 then 1 else 0, month, day)

def ofDayNumber? (n : Nat) : Option Date :=
  let (year, month, day) := partsOfDayNumber n
  of? year month day

end Date

end Stockroom
