import Stockroom.Text.Basic
import Stockroom.Number.Binary64

/-! # Whole numbers in writing

The plain form of a whole number is an optional minus sign and digits, of which the first is zero
only if it is the only one. Other forms are made plain before they are read: white space around the
number, a plus sign, zeros in front, a point with zeros behind, and single underscores within are
dropped. Zeros in front may be mixed with underscores of any number, and what follows them may have
a minus sign of its own.
-/
namespace Stockroom.WholeNumber

inductive Fault
  | malformed
  | tooLong
  deriving DecidableEq, Repr

def lengthLimit : Nat := 4300

def isLeadDigit (c : Char) : Bool := c.isDigit && c ≠ '0'

def splitMinus : Text → Bool × Text
  | '-' :: rest => (true, rest)
  | t => (false, t)

def isPlain (digits : Text) : Bool :=
  digits = ['0'] || digits.head?.any isLeadDigit && digits.all Char.isDigit

def ofPlain? (t : Text) : Option Int :=
  let (negative, digits) := splitMinus t
  if isPlain digits ∧ t.length ≤ lengthLimit then some (signed negative (Text.digitsValue digits))
  else none

/-- Whether a text starts with a plain form that is too long, whatever follows it. -/
def startsTooLong (t : Text) : Bool :=
  let digits := (splitMinus t).2
  let room := lengthLimit - (t.length - digits.length)
  digits.head?.any isLeadDigit && room < (digits.takeWhile Char.isDigit).length

/-- What is left behind zeros and underscores, given the last one of them. That one is kept where
nothing follows or a point does. -/
def behindZeros? (last : Char) : Text → Option Text
  | [] => some [last]
  | c :: rest =>
    if c = '0' ∨ c = '_' then behindZeros? c rest
    else if c = '.' then some (last :: c :: rest)
    else if isLeadDigit c ∨ c = '-' then some (c :: rest)
    else none

def withoutZeros? : Text → Option Text
  | [] => none
  | c :: rest =>
    if c = '0' then behindZeros? c rest
    else if isLeadDigit c ∨ c = '-' then some (c :: rest)
    else none

def withoutZeroFraction (t : Text) : Text :=
  match Text.cutFirst? '.' t with
  | some (whole, c :: zeros) => if (c :: zeros).all (· = '0') then whole else t
  | _ => t

def withoutUnderscores (t : Text) : Text :=
  if t.head? = some '_' ∨ t.getLast? = some '_' ∨ Text.occurs ['_', '_'] t then t
  else t.filter (· ≠ '_')

def tidy? (t : Text) : Option Text :=
  (withoutZeros? t).map fun rest => withoutUnderscores (withoutZeroFraction rest)

def trimmed (t : Text) : Text :=
  ((t.dropWhile Character.isWhiteSpace).reverse.dropWhile Character.isWhiteSpace).reverse

def plain? (t : Text) : Option Text :=
  match trimmed t with
  | '-' :: rest => (tidy? rest).map ('-' :: ·)
  | '+' :: '-' :: _ => none
  | '+' :: rest => tidy? rest
  | rest => tidy? rest

/-- Reads a whole number. Only a text that starts with too many digits is refused for its length; a
form that is too long after it has been made plain is malformed. -/
def ofText (t : Text) : Except Fault Int :=
  if startsTooLong t then .error .tooLong
  else match (plain? t).bind ofPlain? with
    | some n => .ok n
    | none => .error .malformed

end Stockroom.WholeNumber
