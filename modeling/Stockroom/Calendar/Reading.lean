import Stockroom.Calendar.Timestamp
import Stockroom.Number.Binary64

/-! # Reading timestamps

A timestamp is read from text, either in calendar form or as a number in decimal digits, or from a
number. Numbers count from 1 January 1970 UTC: in seconds up to an absolute value of twenty thousand
million, and in milliseconds beyond it.
-/
namespace Stockroom.Timestamp

inductive Fault
  | malformed
  | outOfRange
  | yearZero
  deriving DecidableEq, Repr

def takeNumber? (count : Nat) (t : Text) : Option (Nat × Text) :=
  let head := t.take count
  if head.length = count ∧ head.all Char.isDigit then
    some (Text.digitsValue head, t.drop count)
  else none

def takeDate? (t : Text) : Option ((Nat × Nat × Nat) × Text) := do
  let (year, t) ← takeNumber? 4 t
  let t ← Text.afterLead? ['-'] t
  let (month, t) ← takeNumber? 2 t
  let t ← Text.afterLead? ['-'] t
  let (day, t) ← takeNumber? 2 t
  return ((year, month, day), t)

/-- A fraction of a second in microseconds; digits past the sixth are cut. -/
def takeFraction? : Text → Option (Nat × Text)
  | [] => some (0, [])
  | c :: rest =>
    if c = '.' ∨ c = ',' then
      let digits := rest.takeWhile Char.isDigit
      if digits.isEmpty then none
      else
        let six := (digits ++ List.replicate 6 '0').take 6
        some (Text.digitsValue six, rest.dropWhile Char.isDigit)
    else some (0, c :: rest)

def takeTime? (t : Text) : Option (TimeOfDay × Text) := do
  let (hour, t) ← takeNumber? 2 t
  let t ← Text.afterLead? [':'] t
  let (minute, t) ← takeNumber? 2 t
  match Text.afterLead? [':'] t with
  | none =>
    let time ← TimeOfDay.of? hour minute 0 0
    return (time, t)
  | some t =>
    let (second, t) ← takeNumber? 2 t
    let (microsecond, t) ← takeFraction? t
    let time ← TimeOfDay.of? hour minute second microsecond
    return (time, t)

/-- The offset that ends a timestamp: nothing, a zone letter, or a sign and four digits. The minus
sign U+2212 is a minus too. -/
def readOffset? : Text → Option (Option Offset)
  | [] => some none
  | ['Z'] => some (some Offset.utc)
  | ['z'] => some (some Offset.utc)
  | sign :: rest => do
    let west ←
      if sign = '+' then some false else if sign = '-' ∨ sign = '−' then some true else none
    let (hours, t) ← takeNumber? 2 rest
    let (minutes, t) ← takeNumber? 2 ((Text.afterLead? [':'] t).getD t)
    if t.isEmpty then
      let offset ← Offset.of? west hours minutes
      return some offset
    else none

def isDateEnd (c : Char) : Bool := c = 'T' || c = 't' || c = ' ' || c = '_'

def readParts? (t : Text) : Option ((Nat × Nat × Nat) × TimeOfDay × Option Offset) := do
  let (date, t) ← takeDate? t
  match t with
  | [] => return (date, TimeOfDay.midnight, none)
  | c :: t =>
    if isDateEnd c then
      let (time, t) ← takeTime? t
      let offset ← readOffset? t
      return (date, time, offset)
    else none

/-- The calendar form. A day of year zero is told apart from a day that exists in no year. -/
def ofCalendarText (t : Text) : Except Fault Timestamp :=
  match readParts? t with
  | none => .error .malformed
  | some ((year, month, day), time, offset) =>
    match Date.of? year month day with
    | some date => .ok ⟨date, time, offset⟩
    | none => .error (if year = 0 ∧ DayExists year month day then .yearZero else .malformed)

def secondsLimit : Nat := 20000000000

def microsecondsIn (inSeconds : Bool) : Nat := if inSeconds then 1000000 else 1000

def ofMicroseconds (total : Int) : Except Fault Timestamp :=
  let seconds := total / 1000000
  if seconds < -62167219200 ∨ 253402300799 < seconds then .error .outOfRange
  else
    let day := seconds / 86400 + Date.epochDay
    let second := (seconds % 86400).toNat
    match if 0 ≤ day then Date.ofDayNumber? day.toNat else none,
        TimeOfDay.of? (second / 3600) (second / 60 % 60) (second % 60)
          (total % 1000000).toNat with
    | some date, some time => .ok ⟨date, time, some Offset.utc⟩
    | _, _ => .error .yearZero

def ofCount (count : Int) : Except Fault Timestamp :=
  ofMicroseconds (count * microsecondsIn (count.natAbs ≤ secondsLimit))

/-- The distance of a binary64 number from the greatest whole number not above it is reckoned in the
format, and so is that distance in microseconds, which is then rounded with a half upwards. -/
def ofBinary64 : Binary64 → Except Fault Timestamp
  | .finite negative units =>
    let scale := microsecondsIn (units ≤ secondsLimit * Binary64.one)
    let whole := Binary64.floor negative units
    let distance := nearest53 (signed negative units - whole * (Binary64.one : Int)).toNat 1
    let product := nearest53 (distance * scale) 1
    ofMicroseconds (whole * scale + ((2 * product + Binary64.one) / (2 * Binary64.one) : Nat))
  | _ => .error .outOfRange

def exponent? : Text → Option Int
  | [] => some 0
  | c :: rest =>
    let (negative, digits) := Text.splitSign rest
    if (c = 'e' ∨ c = 'E') ∧ digits ≠ [] ∧ digits.all Char.isDigit then
      some (signed negative (Text.digitsValue digits))
    else none

/-- A decimal numeral: an optional sign and digits, or digits with a point among them and optionally
a power of ten. With a point it counts as the nearest binary64 number, and its whole part must leave
room for one more digit within 63 bits. -/
def ofNumberText (t : Text) : Except Fault Timestamp :=
  let (negative, unsigned) := t.splitSign
  let whole := unsigned.takeWhile Char.isDigit
  match unsigned.dropWhile Char.isDigit with
  | [] => if whole.isEmpty then .error .malformed
    else ofCount (signed negative (Text.digitsValue whole))
  | '.' :: rest =>
    let digits := whole ++ rest.takeWhile Char.isDigit
    match exponent? (rest.dropWhile Char.isDigit) with
    | none => .error .malformed
    | some e =>
      if digits.isEmpty ∨ Nat.pow 2 63 ≤ 10 * Text.digitsValue whole then .error .malformed
      else
        let exponent := e - ((digits.length - whole.length : Nat) : Int)
        ofBinary64 (Binary64.ofDecimal negative (Text.digitsValue digits) exponent)
  | _ => .error .malformed

def ofText (t : Text) : Except Fault Timestamp :=
  match ofCalendarText t with
  | .error .malformed => ofNumberText t
  | result => result

end Stockroom.Timestamp
