import Stockroom.Text.Basic

/-! # Markup

A string for the terminal is made of tags, which the terminal obeys, and of text, which it shows. A
tag is a bracket, one of the characters `a`–`z`, `#`, `/`, `@`, and everything up to the closing
bracket, with no other opening bracket in between; a backslash in front disables it. Text from a
catalog or a query is escaped, so that whatever looks like a tag in it is shown.
-/
namespace Stockroom

def isTagStart (c : Char) : Bool := ('a' ≤ c && c ≤ 'z') || c = '#' || c = '/' || c = '@'

def closes : Text → Bool
  | [] => false
  | c :: rest => if c = ']' then true else if c = '[' then false else closes rest

def opensTag : Text → Bool
  | [] => false
  | c :: rest => isTagStart c && closes rest

/-- Escapes a text behind a run of backslashes. The backslashes in front of a tag are doubled and
one more is put there; a single backslash at the end is doubled. -/
def escapeBehind (run : Nat) : Text → Text
  | [] => if run = 1 then ['\\'] else []
  | c :: rest =>
    if c = '\\' then '\\' :: escapeBehind (run + 1) rest
    else if c = '[' ∧ opensTag rest then
      List.replicate (run + 1) '\\' ++ '[' :: escapeBehind 0 rest
    else c :: escapeBehind 0 rest

def escape (t : Text) : Text := escapeBehind 0 t

/-- A piece of a string for the terminal. A literal is written as it is and holds no tag. -/
inductive Piece
  | tag (name : Text)
  | literal (t : Text)
  | shown (t : Text)
  deriving DecidableEq, Repr

def Piece.render : Piece → Text
  | tag name => '[' :: (name ++ [']'])
  | literal t => t
  | shown t => escape t

abbrev Markup := List Piece

namespace Markup

def render (m : Markup) : Text := m.flatMap Piece.render

def ofLiteral (t : Text) : Markup := [.literal t]

def ofShown (t : Text) : Markup := [.shown t]

def within (name : String) (m : Markup) : Markup :=
  .tag name.toList :: (m ++ [.tag ('/' :: name.toList)])

@[simp] theorem render_nil : render [] = [] := rfl

@[simp] theorem render_cons (piece : Piece) (m : Markup) :
    render (piece :: m) = piece.render ++ render m := rfl

theorem render_append (m m' : Markup) : render (m ++ m') = render m ++ render m' :=
  List.flatMap_append

end Markup

end Stockroom
