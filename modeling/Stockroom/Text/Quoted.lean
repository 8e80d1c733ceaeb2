import Stockroom.Text.Basic
import Stockroom.Character.Printable

/-! # Quoted texts

The quoted form shows a text on one line of printable characters. Single quotes surround it, or
double quotes if it holds a single quote and no double quote. The surrounding quote, the backslash
and every character that is not printable are escaped.
-/
namespace Stockroom.Text
open Character

def hexDigits (width n : Nat) : Text :=
  let digits := Nat.toDigits 16 n
  List.replicate (width - digits.length) '0' ++ digits

def codeEscape (c : Char) : Text :=
  let code := c.toNat
  if code < 0x100 then '\\' :: 'x' :: hexDigits 2 code
  else if code < 0x10000 then '\\' :: 'u' :: hexDigits 4 code
  else '\\' :: 'U' :: hexDigits 8 code

def quotedChar (mark c : Char) : Text :=
  if c = mark ∨ c = '\\' then ['\\', c]
  else if c = '\t' then ['\\', 't']
  else if c = '\n' then ['\\', 'n']
  else if c = '\r' then ['\\', 'r']
  else if isPrintable c then [c]
  else codeEscape c

/-- Double quotes are used only to spare the escapes of single quotes. -/
def quoteMark (t : Text) : Char := if t.contains '\'' && !t.contains '"' then '"' else '\''

def quoted (t : Text) : Text :=
  quoteMark t :: (t.flatMap (quotedChar (quoteMark t)) ++ [quoteMark t])

end Stockroom.Text
