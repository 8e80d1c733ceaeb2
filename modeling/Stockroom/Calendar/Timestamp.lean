import Stockroom.Text.Basic
import Stockroom.Calendar.Date

/-! # Timestamps

A date, a time of day to the microsecond and, unless the timestamp is naive, an offset from UTC in
whole minutes. Timestamps are ordered by their instants, for which a naive timestamp counts as UTC.
-/
namespace Stockroom

structure TimeOfDay where
  hour : Nat
  minute : Nat
  second : Nat
  microsecond : Nat
  hour_lt : hour < 24
  minute_lt : minute < 60
  second_lt : second < 60
  microsecond_lt : microsecond < 1000000
  deriving DecidableEq, Repr

namespace TimeOfDay

def of? (hour minute second microsecond : Nat) : Option TimeOfDay :=
  if h : hour < 24 ∧ minute < 60 ∧ second < 60 ∧ microsecond < 1000000 then
    some ⟨hour, minute, second, microsecond, h.1, h.2.1, h.2.2.1, h.2.2.2⟩
  else none

def midnight : TimeOfDay := ⟨0, 0, 0, 0, by decide, by decide, by decide, by decide⟩

def seconds (t : TimeOfDay) : Nat := 3600 * t.hour + 60 * t.minute + t.second

end TimeOfDay

structure Offset where
  west : Bool
  hours : Nat
  minutes : Nat
  hours_lt : hours < 24
  minutes_lt : minutes < 60
  west_ne_zero : west = true → 0 < hours + minutes
  deriving DecidableEq, Repr

namespace Offset

def utc : Offset := ⟨false, 0, 0, by decide, by decide, by decide⟩

/-- No distance at all is UTC, whatever its sign. -/
def of? (west : Bool) (hours minutes : Nat) : Option Offset :=
  if h : hours < 24 ∧ minutes < 60 then
    if hz : 0 < hours + minutes then some ⟨west, hours, minutes, h.1, h.2, fun _ => hz⟩
    else some utc
  else none

def toMinutes (o : Offset) : Int :=
  let distance : Int := 60 * o.hours + o.minutes
  if o.west then -distance else distance

end Offset

structure Timestamp where
  date : Date
  time : TimeOfDay
  offset : Option Offset
  deriving DecidableEq, Repr

namespace Timestamp

/-- Microseconds from the start of year 1, UTC. -/
def instant (t : Timestamp) : Int :=
  let ahead := match t.offset with
    | some offset => offset.toMinutes
    | none => 0
  ((86400 * t.date.dayNumber + t.time.seconds : Nat) - 60 * ahead) * 1000000 + t.time.microsecond

def firstInstant : Int := 0

def dateText (d : Date) : Text :=
  Text.padded 4 d.year ++ '-' :: (Text.padded 2 d.month ++ '-' :: Text.padded 2 d.day)

def timeText (t : TimeOfDay) : Text :=
  Text.padded 2 t.hour ++ ':' :: (Text.padded 2 t.minute ++ ':' :: Text.padded 2 t.second)

def fractionText (microsecond : Nat) : Text :=
  if microsecond = 0 then [] else '.' :: Text.padded 6 microsecond

def offsetText : Option Offset → Text
  | none => []
  | some o =>
    (if o.west then '-' else '+') :: (Text.padded 2 o.hours ++ ':' :: Text.padded 2 o.minutes)

/-- The full form: the fraction is left out when it is zero, the offset when there is none. -/
def toText (t : Timestamp) : Text :=
  dateText t.date ++ 'T' ::
    (timeText t.time ++ (fractionText t.time.microsecond ++ offsetText t.offset))

/-- Date, hour and minute as written, without regard to the offset; the year is not padded. -/
def minuteText (t : Timestamp) : Text :=
  Text.ofNat t.date.year ++ '-' :: (Text.padded 2 t.date.month ++ '-' ::
    (Text.padded 2 t.date.day ++ ' ' ::
      (Text.padded 2 t.time.hour ++ ':' :: Text.padded 2 t.time.minute)))

end Timestamp

end Stockroom
