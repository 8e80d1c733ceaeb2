import Stockroom.Query.Node
import Stockroom.Record.Basic

/-! # Which records a query holds for

A term holds for a record if one of the searched fields contains it, a tag if its own field agrees
with it, and a tag of an unknown key never. A query holds if all of its clauses do.
-/
namespace Stockroom

def Pattern.inSomeField (p : Pattern) (r : Record) : Bool :=
  TextField.searched.any fun f => p.foundIn (r.text f)

/-- Operators count for numbers only; a text field must contain the value. -/
def Tag.holds (t : Tag) (r : Record) : Bool :=
  match t.field with
  | some (.number f) => t.operator.compare (r.number f) (Numeral.leading t.value.body)
  | some (.text f) => t.value.foundIn (r.text f)
  | none => false

namespace Node

mutual

def holds (r : Record) : Node → Bool
  | term pattern => pattern.inSomeField r
  | tag t => t.holds r
  | not inner => !inner.holds r
  | anyOf branches => anyHolds r branches

def anyHolds (r : Record) : List Node → Bool
  | [] => false
  | branch :: rest => branch.holds r || anyHolds r rest

end

theorem anyHolds_eq_any (r : Record) (branches : List Node) :
    anyHolds r branches = branches.any (holds r) := by
  induction branches with
  | nil => rfl
  | cons branch rest ih => simp [anyHolds, ih]

end Node

def Query.holds (q : Query) (r : Record) : Bool := q.clauses.all (Node.holds r)

def Record.matchesText (r : Record) (query : Text) : Bool := (Query.ofText query).holds r

end Stockroom
