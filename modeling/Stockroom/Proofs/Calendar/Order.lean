import Stockroom.Calendar.Timestamp
import Mathlib.Data.List.Lex
import Mathlib.Order.Monotone.Basic

/-! # The order of the calendar

Dates and times of day are ordered part by part, the year first. The minutes from the start of the
calendar to what a clock shows rise in that order: the days of a month lie within the month, and its
months within the year. Less the minutes that the clock is ahead, they are the minute of UTC in which
the instant lies.
-/
namespace Stockroom

namespace Date

theorem daysBeforeMonth_succ {year month : Nat} (h : 1 ≤ month) :
    daysBeforeMonth year (month + 1) = daysBeforeMonth year month + daysInMonth year month := by
  obtain ⟨m, rfl⟩ := Nat.exists_eq_add_of_le' h
  have hrange : List.range (m + 1 + 1 - 1) = List.range (m + 1 - 1) ++ [m] := List.range_succ
  rw [daysBeforeMonth, hrange, List.foldl_append]
  rfl

theorem daysBeforeMonth_mono {year m n : Nat} (hm : 1 ≤ m) (h : m ≤ n) :
    daysBeforeMonth year m ≤ daysBeforeMonth year n := by
  induction n, h using Nat.le_induction with
  | base => exact le_rfl
  | succ n hmn ih =>
    rw [daysBeforeMonth_succ (hm.trans hmn)]
    exact ih.trans (Nat.le_add_right _ _)

theorem isLeapYear_iff {year : Nat} :
    isLeapYear year = true ↔ 4 ∣ year ∧ (¬100 ∣ year ∨ 400 ∣ year) := by
  simp [isLeapYear, Nat.dvd_iff_mod_eq_zero]

theorem daysBeforeMonth_thirteen (year : Nat) :
    daysBeforeMonth year 13 = 337 + daysInMonth year 2 := by
  have hrange : List.range (13 - 1) = [0, 1, 2, 3, 4, 5, 6, 7, 8, 9, 10, 11] := rfl
  rw [daysBeforeMonth, hrange]
  simp only [List.foldl_cons, List.foldl_nil, daysInMonth]
  omega

theorem daysBeforeYear_succ {year : Nat} (h : 1 ≤ year) :
    daysBeforeYear (year + 1) = daysBeforeYear year + daysBeforeMonth year 13 := by
  obtain ⟨y, rfl⟩ := Nat.exists_eq_add_of_le' h
  have hcenturies : y / 100 ≤ y / 4 := Nat.div_le_div_left (by decide) (by decide)
  rw [daysBeforeMonth_thirteen]
  simp only [daysBeforeYear, daysInMonth, isLeapYear_iff, Nat.add_sub_cancel, Nat.succ_div]
  by_cases h4 : 4 ∣ y + 1
  case neg =>
    have h100 : ¬100 ∣ y + 1 := mt (Nat.dvd_trans (by decide)) h4
    have h400 : ¬400 ∣ y + 1 := mt (Nat.dvd_trans (by decide)) h4
    simp only [h4, h100, h400, if_false, false_and]
    omega
  by_cases h100 : 100 ∣ y + 1
  case neg =>
    have h400 : ¬400 ∣ y + 1 := mt (Nat.dvd_trans (by decide)) h100
    simp only [h4, h100, h400, if_true, if_false, not_false_eq_true, true_or, and_true]
    omega
  by_cases h400 : 400 ∣ y + 1
  case neg =>
    simp only [h4, h100, h400, if_true, if_false, not_true, or_false, and_false]
    omega
  simp only [h4, h100, h400, if_true, or_true, and_true]
  omega

theorem daysBeforeYear_mono : Monotone daysBeforeYear := by
  refine monotone_nat_of_le_succ fun year => ?_
  cases year with
  | zero => decide
  | succ year =>
    rw [daysBeforeYear_succ (Nat.le_add_left 1 year)]
    exact Nat.le_add_right _ _

variable {d e : Date}

theorem dayNumber_lt_of_month (d : Date) :
    d.dayNumber < daysBeforeYear d.year + daysBeforeMonth d.year (d.month + 1) := by
  have hday := d.day_exists.2.2
  rw [daysBeforeMonth_succ d.day_exists.1, dayNumber]
  omega

theorem dayNumber_lt_of_year (d : Date) : d.dayNumber < daysBeforeYear (d.year + 1) := by
  have hmonth : daysBeforeMonth d.year (d.month + 1) ≤ daysBeforeMonth d.year 13 :=
    daysBeforeMonth_mono (Nat.le_add_left 1 _) (Nat.succ_le_succ d.day_exists.2.1)
  have hlast := d.dayNumber_lt_of_month
  rw [daysBeforeYear_succ d.one_le_year]
  omega

theorem dayNumber_lt_of_year_lt (h : d.year < e.year) : d.dayNumber < e.dayNumber := by
  calc
    d.dayNumber < daysBeforeYear (d.year + 1) := d.dayNumber_lt_of_year
    _ ≤ daysBeforeYear e.year := daysBeforeYear_mono h
    _ ≤ e.dayNumber := by
      rw [dayNumber, Nat.add_assoc]
      exact Nat.le_add_right _ _

theorem dayNumber_lt_of_month_lt (hy : d.year = e.year) (h : d.month < e.month) :
    d.dayNumber < e.dayNumber := by
  calc
    d.dayNumber < daysBeforeYear d.year + daysBeforeMonth d.year (d.month + 1) :=
      d.dayNumber_lt_of_month
    _ ≤ daysBeforeYear e.year + daysBeforeMonth e.year e.month := by
      rw [hy]
      exact Nat.add_le_add_left (daysBeforeMonth_mono (Nat.le_add_left 1 _) h) _
    _ ≤ e.dayNumber := Nat.le_add_right _ _

theorem dayNumber_lt_of_day_lt (hy : d.year = e.year) (hm : d.month = e.month) (h : d.day < e.day) :
    d.dayNumber < e.dayNumber := by
  have hday := d.day_exists.2.2.1
  rw [dayNumber, dayNumber, hy, hm]
  omega

end Date

namespace Timestamp

def clock (t : Timestamp) : List Nat :=
  [t.date.year, t.date.month, t.date.day, t.time.hour, t.time.minute]

def clockMinute (t : Timestamp) : Nat := 1440 * t.date.dayNumber + 60 * t.time.hour + t.time.minute

variable {t u : Timestamp}

theorem clockMinute_lt_of_dayNumber_lt (h : t.date.dayNumber < u.date.dayNumber) :
    t.clockMinute < u.clockMinute := by
  have hhour := t.time.hour_lt
  have hminute := t.time.minute_lt
  simp only [clockMinute]
  omega

theorem clockMinute_lt_of_lt (h : t.clock < u.clock) : t.clockMinute < u.clockMinute := by
  have hminute := t.time.minute_lt
  simp only [clock, List.cons_lt_cons_iff] at h
  rcases h with hyear | ⟨hyear, hmonth | ⟨hmonth, hday | ⟨hday, htime⟩⟩⟩
  · exact clockMinute_lt_of_dayNumber_lt (Date.dayNumber_lt_of_year_lt hyear)
  · exact clockMinute_lt_of_dayNumber_lt (Date.dayNumber_lt_of_month_lt hyear hmonth)
  · exact clockMinute_lt_of_dayNumber_lt (Date.dayNumber_lt_of_day_lt hyear hmonth hday)
  · have hdate : t.date.dayNumber = u.date.dayNumber := by
      simp only [Date.dayNumber, hyear, hmonth, hday]
    simp only [clockMinute, hdate]
    rcases htime with hhour | ⟨hhour, hmin | ⟨-, hnil⟩⟩
    · omega
    · omega
    · exact absurd hnil (List.not_lt_nil _)

theorem clockMinute_eq_of_eq (h : t.clock = u.clock) : t.clockMinute = u.clockMinute := by
  simp only [clock, List.cons.injEq] at h
  obtain ⟨hyear, hmonth, hday, hhour, hminute, -⟩ := h
  simp only [clockMinute, Date.dayNumber, hyear, hmonth, hday, hhour, hminute]

theorem clockMinute_le_iff : t.clockMinute ≤ u.clockMinute ↔ t.clock ≤ u.clock := by
  constructor
  · intro h
    by_contra hlt
    exact absurd (clockMinute_lt_of_lt (not_le.mp hlt)) (not_lt.mpr h)
  · intro h
    rcases lt_or_eq_of_le h with hlt | heq
    · exact (clockMinute_lt_of_lt hlt).le
    · exact (clockMinute_eq_of_eq heq).le

/-- The minutes that the clock is ahead of UTC. A naive timestamp is not. -/
def ahead (t : Timestamp) : Int := (t.offset.map Offset.toMinutes).getD 0

def minuteOf (instant : Int) : Int := instant / 60000000

theorem minuteOf_instant (t : Timestamp) : minuteOf t.instant = t.clockMinute - t.ahead := by
  have hsecond := t.time.second_lt
  have hmicrosecond := t.time.microsecond_lt
  have hinstant : t.instant = ((86400 * t.date.dayNumber + t.time.seconds : Nat) - 60 * t.ahead) *
      1000000 + t.time.microsecond := by
    rw [instant, ahead]
    cases t.offset <;> rfl
  rw [minuteOf, hinstant, clockMinute, TimeOfDay.seconds]
  omega

/-- A clock may be behind that of an earlier instant only if it is less ahead, by more than the
minutes between the two. -/
theorem clock_le_iff :
    u.clock ≤ t.clock ↔ u.ahead - t.ahead ≤ minuteOf t.instant - minuteOf u.instant := by
  rw [← clockMinute_le_iff, minuteOf_instant, minuteOf_instant]
  omega

theorem clock_le_iff_of_instant_eq (h : t.instant = u.instant) :
    u.clock ≤ t.clock ↔ u.ahead ≤ t.ahead := by
  rw [clock_le_iff, h]
  omega

/-- Clocks at one instant show the same exactly if they are equally far ahead. -/
theorem clock_eq_iff_of_instant_eq (h : t.instant = u.instant) :
    t.clock = u.clock ↔ t.ahead = u.ahead := by
  rw [le_antisymm_iff, le_antisymm_iff, clock_le_iff_of_instant_eq h,
    clock_le_iff_of_instant_eq h.symm]

end Timestamp

end Stockroom
