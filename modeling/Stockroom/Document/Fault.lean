import Stockroom.Text.Basic

/-! # Faults of document text

What can be wrong with the text of a document, and where. A place is given by the number of
characters before it, and shown with its line and column, both counted from one.
-/
namespace Stockroom.Document

inductive Problem
  | expectedValue
  | expectedName
  | expectedColon
  | expectedComma
  | extraData
  | unterminatedText
  | controlCharacter
  | badEscape
  | badCodeEscape
  | byteOrderMark
  deriving DecidableEq, Repr

def Problem.message : Problem → Text
  | .expectedValue => "Expecting value".toList
  | .expectedName => "Expecting property name enclosed in double quotes".toList
  | .expectedColon => "Expecting ':' delimiter".toList
  | .expectedComma => "Expecting ',' delimiter".toList
  | .extraData => "Extra data".toList
  | .unterminatedText => "Unterminated string starting at".toList
  | .controlCharacter => "Invalid control character at".toList
  | .badEscape => "Invalid \\escape".toList
  | .badCodeEscape => "Invalid \\uXXXX escape".toList
  | .byteOrderMark => "Unexpected UTF-8 BOM (decode using utf-8-sig)".toList

/-- Why a text was not read as a document. A text with half of a pair in it may well be one, but no
characters can hold what it says. -/
inductive Fault
  | malformed (problem : Problem) (place : Nat)
  | tooManyDigits (count : Nat)
  | loneHalf
  deriving DecidableEq, Repr

def lineOf (t : Text) (place : Nat) : Nat := (t.take place).count '\n' + 1

def columnOf (t : Text) (place : Nat) : Nat :=
  ((t.take place).reverse.takeWhile (· ≠ '\n')).length + 1

def placeText (t : Text) (place : Nat) : Text :=
  "line ".toList ++ Text.ofNat (lineOf t place) ++ " column ".toList ++
    Text.ofNat (columnOf t place) ++ " (char ".toList ++ Text.ofNat place ++ [')']

end Stockroom.Document
