/-! # Binary64 numbers

A finite number of the format is a whole number of units of `2^-1074`, so rounding to the format,
whole parts and comparison with whole numbers are arithmetic on natural numbers. Rounding goes to
the nearest number of the format, a tie to the one with an even significand.
-/
namespace Stockroom

def roundHalfEven (num den : Nat) : Nat :=
  let q := num / den
  let r := num % den
  if 2 * r < den then q else if den < 2 * r then q + 1 else q + q % 2

def nearest53 (num den : Nat) : Nat :=
  let spacing := Nat.pow 2 ((num / den).log2 - 52)
  roundHalfEven num (den * spacing) * spacing

def signed (negative : Bool) (n : Nat) : Int := if negative then -(n : Int) else n

inductive Binary64
  | finite (negative : Bool) (units : Nat)
  | infinite (negative : Bool)
  | nan
  deriving DecidableEq, Repr

namespace Binary64

def one : Nat := Nat.pow 2 1074

/-- The number nearest to a quotient; a magnitude that rounds to `2^1024` or more is infinite. -/
def ofRatio (negative : Bool) (num den : Nat) : Binary64 :=
  let units := nearest53 (num * one) den
  if units < Nat.pow 2 1024 * one then finite negative units else infinite negative

def ofInt (n : Int) : Binary64 := ofRatio (n < 0) n.natAbs 1

/-- The number nearest to `digits · 10 ^ exponent`. Exponents far outside the format's range are
decided by the number of digits alone. -/
def ofDecimal (negative : Bool) (digits : Nat) (exponent : Int) : Binary64 :=
  let order := exponent + (Nat.toDigits 10 digits).length
  if digits = 0 ∨ order < -400 then finite negative 0
  else if 400 < order then infinite negative
  else match exponent with
    | .ofNat e => ofRatio negative (digits * Nat.pow 10 e) 1
    | .negSucc e => ofRatio negative digits (Nat.pow 10 (e + 1))

def toInt? : Binary64 → Option Int
  | finite negative units => if units % one = 0 then some (signed negative (units / one)) else none
  | _ => none

def floor (negative : Bool) (units : Nat) : Int := (signed negative units) / (one : Int)

end Binary64

end Stockroom
