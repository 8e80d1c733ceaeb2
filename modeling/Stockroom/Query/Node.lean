import Stockroom.Text.Pattern
import Stockroom.Query.Scan
import Stockroom.Query.Field
import Stockroom.Query.Operator

/-! # Queries and their reading

A query is a list of clauses, all of which must hold. A clause is a term, a tag that restricts one
field, a negation, or a choice between alternatives. Every text reads as some query: what fits no
form is a term. Dashes and parentheses around a single alternative are peeled off before the form is
decided, and a choice nested deeper than `maxNesting` is read as plain text.
-/
namespace Stockroom

/-- A restriction of one field. The field is missing if the key names none. -/
structure Tag where
  key : Text
  field : Option Field
  operator : Operator
  value : Pattern
  deriving DecidableEq, Repr

inductive Node
  | term (pattern : Pattern)
  | tag (t : Tag)
  | not (inner : Node)
  | anyOf (branches : List Node)
  deriving Repr

structure Query where
  source : Text
  clauses : List Node
  deriving Repr

def maxNesting : Nat := 32

/-- Takes off a leading dash, or parentheses around a single alternative, which is then the whole
interior. Says whether it was a dash. -/
def unwrap? : Text → Option (Bool × Text)
  | '-' :: rest => some (true, rest)
  | t =>
    match t.interior? '(' ')' with
    | some inner => if (alternatives inner).length = 1 then some (false, inner) else none
    | none => none

theorem length_lt_of_unwrap? {t inner : Text} {dash : Bool} (h : unwrap? t = some (dash, inner)) :
    inner.length < t.length := by
  unfold unwrap? at h
  split at h
  · cases h; simp
  · split at h
    · next hi =>
      split at h
      · cases h
        rw [Text.interior?_eq_some.mp hi]
        simp only [List.length_cons, List.length_append]
        omega
      · cases h
    · cases h

/-- Takes off dashes and parentheses around single alternatives for as long as there are any, with
the blanks between them. Gives whether the number of dashes is odd, and what is left. -/
def peel (t : Text) : Bool × Text :=
  match h : unwrap? t.trim with
  | some (dash, inner) =>
    have : inner.length < t.length :=
      Nat.lt_of_lt_of_le (length_lt_of_unwrap? h) t.length_trim_le
    let (negative, core) := peel inner
    (dash ^^ negative, core)
  | none => (false, t.trim)
  termination_by t.length

/-- Reads a restriction. A quoted expression is literal and has no operator. -/
def Tag.ofTexts (key expression : Text) : Tag :=
  match Text.interior? '"' '"' expression with
  | some inner => ⟨Field.keyForm key, Field.ofKey? key, .eq, ⟨inner, true⟩⟩
  | none =>
    let (operator, value) := Operator.split expression
    ⟨Field.keyForm key, Field.ofKey? key, operator, ⟨value, false⟩⟩

namespace Node

/-- A text without structure of its own: a literal term in quotes, a tag with a colon, or a term. -/
def leaf (t : Text) : Node :=
  match Text.interior? '"' '"' t with
  | some inner => .term ⟨inner, true⟩
  | none =>
    match t.cutFirst? ':' with
    | some (key, expression) => .tag (Tag.ofTexts key expression)
    | none => .term ⟨t, false⟩

def groupOf? (t : Text) : Option (List Text) :=
  match Text.interior? '(' ')' t with
  | some inner =>
    let branches := alternatives inner
    if 2 ≤ branches.length then some branches else none
  | none => none

def ofPeeled (read : Text → Node) (peeled : Bool × Text) : Node :=
  if peeled.1 then .not (read peeled.2) else read peeled.2

def readWithin : Nat → Text → Node
  | 0, t => ofPeeled leaf (peel t)
  | allowance + 1, t =>
    ofPeeled (fun core =>
      match groupOf? core with
      | some branches => .anyOf (branches.map (readWithin allowance))
      | none => leaf core) (peel t)

/-- Reads a clause that already stands inside so many choices. A depth below zero leaves room for
more. -/
def ofText (t : Text) (depth : Int) : Node := readWithin (maxNesting - depth).toNat t

end Node

def Query.ofText (t : Text) : Query := ⟨t, (clauseTexts t).map (Node.ofText · 0)⟩

end Stockroom
