import Stockroom.Text.Basic

/-! # Cutting query text outside quotes and parentheses

A scan knows in how many parentheses it is and whether it is between quotes. Every double quote
switches quoting, parentheses between quotes are plain characters, and a closing parenthesis with
none open changes nothing. A separator cuts only where the scan is at rest: at depth zero outside
quotes. Clauses are cut at spaces and empty ones dropped; alternatives are cut at `~` and all kept.
-/
namespace Stockroom

structure Scan where
  depth : Nat
  quoted : Bool
  deriving DecidableEq, Repr

namespace Scan

def rest : Scan := ⟨0, false⟩

def step (s : Scan) (c : Char) : Scan :=
  if c = '"' then { s with quoted := !s.quoted }
  else if s.quoted then s
  else if c = '(' then { s with depth := s.depth + 1 }
  else if c = ')' then { s with depth := s.depth - 1 }
  else s

def run (s : Scan) (t : Text) : Scan := t.foldl step s

@[simp] theorem run_nil (s : Scan) : s.run [] = s := rfl

@[simp] theorem run_cons (s : Scan) (c : Char) (t : Text) : s.run (c :: t) = (s.step c).run t := rfl

@[simp] theorem run_append (s : Scan) (t u : Text) : s.run (t ++ u) = (s.run t).run u := by
  simp [run]

/-- The pieces between the separators met at rest. There is always at least one piece. -/
def pieces (separator : Char) (s : Scan) : Text → List Text
  | [] => [[]]
  | c :: t =>
    if c = separator ∧ s = rest then [] :: pieces separator s t
    else Text.lengthenHead c (pieces separator (s.step c) t)

end Scan

def clauseTexts (query : Text) : List Text :=
  (Scan.rest.pieces ' ' query).filter fun piece => !piece.isEmpty

def alternatives (inner : Text) : List Text := Scan.rest.pieces '~' inner

end Stockroom
