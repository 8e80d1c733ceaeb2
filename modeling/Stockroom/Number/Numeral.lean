import Stockroom.Text.Basic
import Stockroom.Character.Digit
import Stockroom.Number.Shortest

/-! # Numerals

The number that a text starts with. Digits of every script count. A numeral of more than 4300 digits
is not kept exactly: the nearest number of 53 significant binary digits stands in for it, or an
infinity. A text that starts with no number stands for zero.
-/
namespace Stockroom

inductive Numeral
  | exact (value : Int)
  | rounded (negative : Bool) (magnitude : Nat)
  | unbounded (negative : Bool)
  deriving DecidableEq, Repr

namespace Numeral
open Character

/-- The longest digit string whose value is kept exactly. -/
def digitLimit : Nat := 4300

def leadingDigits : Text → List Nat
  | [] => []
  | c :: rest => match digitValue? c with
    | some d => d :: leadingDigits rest
    | none => []

def valueOf (digits : List Nat) : Nat := digits.foldl (fun n d => 10 * n + d) 0

/-- The stand-in for a number with too many digits. -/
def approximate (negative : Bool) (n : Nat) : Numeral :=
  let magnitude := nearest53 n 1
  if magnitude < Nat.pow 2 1024 then rounded negative magnitude else unbounded negative

def ofDigits (negative : Bool) (digits : List Nat) : Numeral :=
  let n := valueOf digits
  if digits.length ≤ digitLimit then exact (signed negative n) else approximate negative n

/-- The number written at the start of a text, behind blanks and a sign. -/
def leading (t : Text) : Numeral :=
  let (negative, rest) := t.trimStart.splitSign
  match leadingDigits rest with
  | [] => exact 0
  | digits => ofDigits negative digits

def compareInt (actual : Int) : Numeral → Ordering
  | exact value => compare actual value
  | rounded negative magnitude => compare actual (signed negative magnitude)
  | unbounded true => .gt
  | unbounded false => .lt

def sign (negative : Bool) : Text := if negative then ['-'] else []

def withoutTrailingZeros (digits : Text) : Text := (digits.reverse.dropWhile (· = '0')).reverse

def scientific (n : Nat) : Text :=
  let (digits, e) := shortestDecimal n
  let text := Text.ofNat digits
  let exponent := e + text.length - 1
  let fraction := withoutTrailingZeros (text.drop 1)
  text.take 1 ++ (if fraction.isEmpty then [] else '.' :: fraction) ++ ['e', '+'] ++
    Text.padded 2 exponent

/-- A rounded magnitude is positional below `10^16` and scientific from there on. -/
def magnitudeText (n : Nat) : Text :=
  if n < Nat.pow 10 16 then Text.ofNat n ++ ['.', '0'] else scientific n

def toText : Numeral → Text
  | exact value => Text.ofInt value
  | rounded negative magnitude => sign negative ++ magnitudeText magnitude
  | unbounded negative => sign negative ++ "inf".toList

end Numeral

end Stockroom
