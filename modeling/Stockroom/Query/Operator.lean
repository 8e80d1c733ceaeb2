import Stockroom.Number.Numeral
import Stockroom.Text.Choice

/-! # Relational operators

A numeric restriction compares the value of a record with a numeral. An operator says which places
relative to the numeral are accepted.
-/
namespace Stockroom

inductive Operator
  | eq
  | gt
  | lt
  | ge
  | le
  deriving DecidableEq, Repr

namespace Operator

def all : List Operator := [eq, gt, lt, ge, le]

def symbol : Operator → Text
  | eq => ['=']
  | gt => ['>']
  | lt => ['<']
  | ge => ['>', '=']
  | le => ['<', '=']

def ofSymbol? (t : Text) : Option Operator := all.find? fun op => op.symbol = t

def read (t : Text) : Except UnknownChoice Operator :=
  match ofSymbol? t with
  | some op => .ok op
  | none => .error ⟨t, "Operator".toList⟩

theorem ofSymbol?_symbol (op : Operator) : ofSymbol? op.symbol = some op := by cases op <;> decide

/-- Splits an expression into its leading operator and the rest. The longer operator is taken where
two fit, and without an operator equality is meant. -/
def split : Text → Operator × Text
  | '>' :: '=' :: rest => (ge, rest)
  | '<' :: '=' :: rest => (le, rest)
  | '>' :: rest => (gt, rest)
  | '<' :: rest => (lt, rest)
  | '=' :: rest => (eq, rest)
  | t => (eq, t)

def accepts : Operator → Ordering → Bool
  | eq, place => place.isEq
  | gt, place => place.isGT
  | lt, place => place.isLT
  | ge, place => place.isGE
  | le, place => place.isLE

def compare (op : Operator) (actual : Int) (target : Numeral) : Bool :=
  op.accepts (target.compareInt actual)

end Operator

end Stockroom
