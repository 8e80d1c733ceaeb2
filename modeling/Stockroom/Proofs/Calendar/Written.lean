import Stockroom.Calendar.Reading
import Mathlib.Algebra.Group.Nat.Defs

/-! # Reading written timestamps

A timestamp is read back from its full form. Each part is written with a fixed number of digits, or
left out, and followed by a character that is no digit, so each reader takes exactly what was written
for its part and leaves the rest of the text to the next one.
-/
namespace Stockroom

namespace Text

theorem digitsValue_eq_ofDigitChars (digits : Text) :
    digitsValue digits = Nat.ofDigitChars 10 digits 0 := rfl

theorem digitsValue_padded (width n : Nat) : digitsValue (padded width n) = n := by
  rw [digitsValue_eq_ofDigitChars, padded, Nat.ofDigitChars_append, Nat.ofDigitChars_replicate_zero,
    Nat.mul_zero]
  exact Nat.ofDigitChars_toDigits (by decide) (by decide)

theorem length_padded {width n : Nat} (hw : 0 < width) (h : n < 10 ^ width) :
    (padded width n).length = width := by
  have hl : (ofNat n).length ≤ width := (Nat.length_toDigits_le_iff (by decide) hw).mpr h
  rw [padded, List.length_append, List.length_replicate]
  omega

theorem isDigit_of_mem_padded {width n : Nat} {c : Char} (h : c ∈ padded width n) :
    c.isDigit = true := by
  rcases List.mem_append.mp h with h | h
  · rw [List.eq_of_mem_replicate h]
    decide
  · exact Nat.isDigit_of_mem_toDigits (by decide) (by decide) h

theorem afterLead?_singleton (c : Char) (t : Text) : afterLead? [c] (c :: t) = some t :=
  afterLead?_eq_some.mpr rfl

end Text

namespace Timestamp

theorem takeNumber?_padded {width n : Nat} (hw : 0 < width) (h : n < 10 ^ width) (rest : Text) :
    takeNumber? width (Text.padded width n ++ rest) = some (n, rest) := by
  have hl := Text.length_padded hw h
  have htake : (Text.padded width n ++ rest).take width = Text.padded width n :=
    List.take_left' hl
  have hdrop : (Text.padded width n ++ rest).drop width = rest := List.drop_left' hl
  have hdigits : (Text.padded width n).all Char.isDigit = true := by
    rw [List.all_eq_true]
    intro c hc
    exact Text.isDigit_of_mem_padded hc
  rw [takeNumber?, htake, hdrop, if_pos ⟨hl, hdigits⟩, Text.digitsValue_padded]

end Timestamp

theorem daysInMonth_le (year month : Nat) : daysInMonth year month ≤ 31 := by
  unfold daysInMonth
  split
  · split <;> decide
  all_goals decide

theorem Timestamp.takeDate?_dateText (d : Date) (rest : Text) :
    takeDate? (dateText d ++ rest) = some ((d.year, d.month, d.day), rest) := by
  have hyear : d.year < 10 ^ 4 := Nat.lt_succ_of_le d.year_le
  have hmonth : d.month < 10 ^ 2 := by
    have h := d.day_exists.2.1
    omega
  have hday : d.day < 10 ^ 2 := by
    have h := d.day_exists.2.2.2
    have hm := daysInMonth_le d.year d.month
    omega
  simp [takeDate?, dateText, takeNumber?_padded (by decide) hyear,
    takeNumber?_padded (by decide) hmonth, takeNumber?_padded (by decide) hday,
    Text.afterLead?_singleton]

theorem TimeOfDay.of?_self (t : TimeOfDay) :
    of? t.hour t.minute t.second t.microsecond = some t := by
  simp [of?, t.hour_lt, t.minute_lt, t.second_lt, t.microsecond_lt]

namespace Timestamp

def EndsTime (rest : Text) : Prop := ∀ c ∈ rest.head?, c.isDigit = false ∧ c ≠ '.' ∧ c ≠ ','

theorem takeFraction?_of_endsTime {rest : Text} (h : EndsTime rest) :
    takeFraction? rest = some (0, rest) := by
  cases rest with
  | nil => rfl
  | cons c rest =>
    obtain ⟨_, hpoint, hcomma⟩ := h c rfl
    rw [takeFraction?, if_neg]
    rintro (hc | hc)
    · exact hpoint hc
    · exact hcomma hc

theorem takeFraction?_fractionText {microsecond : Nat} (hm : microsecond < 1000000) {rest : Text}
    (h : EndsTime rest) :
    takeFraction? (fractionText microsecond ++ rest) = some (microsecond, rest) := by
  by_cases hz : microsecond = 0
  · rw [hz, fractionText, if_pos rfl]
    exact takeFraction?_of_endsTime h
  · have hl : (Text.padded 6 microsecond).length = 6 := Text.length_padded (by decide) hm
    have hdigits : ∀ c ∈ Text.padded 6 microsecond, c.isDigit = true := fun _ hc =>
      Text.isDigit_of_mem_padded hc
    have hrest : rest.takeWhile Char.isDigit = [] ∧ rest.dropWhile Char.isDigit = rest := by
      cases rest with
      | nil => exact ⟨rfl, rfl⟩
      | cons c rest =>
        have hc : ¬c.isDigit = true := by simp [(h c rfl).1]
        exact ⟨List.takeWhile_cons_of_neg hc, List.dropWhile_cons_of_neg hc⟩
    have htake : (Text.padded 6 microsecond ++ rest).takeWhile Char.isDigit =
        Text.padded 6 microsecond := by
      rw [List.takeWhile_append_of_pos hdigits, hrest.1, List.append_nil]
    have hdrop : (Text.padded 6 microsecond ++ rest).dropWhile Char.isDigit = rest := by
      rw [List.dropWhile_append_of_pos hdigits, hrest.2]
    have hempty : (Text.padded 6 microsecond).isEmpty = false := by
      rw [List.isEmpty_eq_false_iff, ← List.length_pos_iff, hl]
      decide
    have hsix : (Text.padded 6 microsecond ++ List.replicate 6 '0').take 6 =
        Text.padded 6 microsecond := List.take_left' hl
    rw [fractionText, if_neg hz, List.cons_append, takeFraction?, if_pos (.inl rfl)]
    simp only [htake, hdrop, hempty, hsix, Text.digitsValue_padded]
    rfl

theorem takeTime?_timeText (t : TimeOfDay) {rest : Text} (h : EndsTime rest) :
    takeTime? (timeText t ++ (fractionText t.microsecond ++ rest)) = some (t, rest) := by
  have hhour : t.hour < 10 ^ 2 := Nat.lt_trans t.hour_lt (by decide)
  have hminute : t.minute < 10 ^ 2 := Nat.lt_trans t.minute_lt (by decide)
  have hsecond : t.second < 10 ^ 2 := Nat.lt_trans t.second_lt (by decide)
  simp [takeTime?, timeText, takeNumber?_padded (by decide) hhour,
    takeNumber?_padded (by decide) hminute, takeNumber?_padded (by decide) hsecond,
    Text.afterLead?_singleton, takeFraction?_fractionText t.microsecond_lt h, TimeOfDay.of?_self]

end Timestamp

theorem Offset.of?_self (o : Offset) : of? o.west o.hours o.minutes = some o := by
  obtain ⟨west, hours, minutes, hh, hm, hw⟩ := o
  by_cases hz : 0 < hours + minutes
  · simp [of?, hh, hm, hz]
  · have hhours : hours = 0 := by omega
    have hminutes : minutes = 0 := by omega
    have hwest : west = false := by
      rw [← Bool.not_eq_true]
      exact fun h => hz (hw h)
    subst hhours hminutes hwest
    rfl

namespace Timestamp

theorem endsTime_offsetText (offset : Option Offset) : EndsTime (offsetText offset) := by
  intro c hc
  cases offset with
  | none => cases hc
  | some o =>
    rw [offsetText, List.head?_cons, Option.mem_some_iff] at hc
    rw [← hc]
    cases o.west <;> decide

theorem readOffset?_offsetText (offset : Option Offset) :
    readOffset? (offsetText offset) = some offset := by
  cases offset with
  | none => rfl
  | some o =>
    have hhours : o.hours < 10 ^ 2 := Nat.lt_trans o.hours_lt (by decide)
    have hminutes : o.minutes < 10 ^ 2 := Nat.lt_trans o.minutes_lt (by decide)
    have hlast := takeNumber?_padded (by decide) hminutes []
    rw [List.append_nil] at hlast
    have hself := o.of?_self
    cases hw : o.west with
    | false =>
      rw [hw] at hself
      simp [offsetText, hw, readOffset?, takeNumber?_padded (by decide) hhours,
        Text.afterLead?_singleton, hlast, hself]
    | true =>
      rw [hw] at hself
      simp [offsetText, hw, readOffset?, takeNumber?_padded (by decide) hhours,
        Text.afterLead?_singleton, hlast, hself]

theorem readParts?_toText (t : Timestamp) : readParts? t.toText =
    some ((t.date.year, t.date.month, t.date.day), t.time, t.offset) := by
  simp [readParts?, toText, takeDate?_dateText, isDateEnd,
    takeTime?_timeText t.time (endsTime_offsetText t.offset), readOffset?_offsetText]

/-- Every timestamp is read back from its full form. -/
theorem ofText_toText (t : Timestamp) : ofText t.toText = .ok t := by
  have hcalendar : ofCalendarText t.toText = .ok t := by
    rw [ofCalendarText, readParts?_toText]
    simp only [Date.of?_self]
  rw [ofText, hcalendar]

end Timestamp

end Stockroom
