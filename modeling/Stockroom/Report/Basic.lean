import Stockroom.Report.Markup

/-! # Reports

What is handed to the terminal: a line of markup, a table, or a tree.
-/
namespace Stockroom

inductive Side
  | left
  | right
  deriving DecidableEq, Repr

structure Column where
  header : Text
  style : Text
  side : Side
  width : Option Nat
  deriving DecidableEq, Repr

def Column.plain (header : String) : Column := ⟨header.toList, [], .left, none⟩

def Column.styled (header style : String) : Column := ⟨header.toList, style.toList, .left, none⟩

def Column.rightSet (header : String) : Column := ⟨header.toList, [], .right, none⟩

def Column.fixed (header : String) (width : Nat) : Column := ⟨header.toList, [], .left, some width⟩

structure Table where
  title : Text
  columns : List Column
  rows : List (List Markup)
  deriving DecidableEq, Repr

inductive Tree
  | node (label : Markup) (children : List Tree)
  deriving Repr

inductive Report
  | line (markup : Markup)
  | table (t : Table)
  | tree (t : Tree)
  deriving Repr

/-- The line shown in place of an empty table. A query that is not blank is shown in it. -/
def nothingFound (things : String) (query : Text) : Report :=
  .line <| Markup.within "dim" <|
    .literal ("No ".toList ++ things.toList ++ " found".toList) ::
      ((if query.trim.isEmpty then []
        else [.literal " for \"".toList, .shown query, .literal ['"']]) ++ [.literal ['.']])

def shownOrDash (t : Text) : Markup := Markup.ofShown (if t.isEmpty then ['-'] else t)

end Stockroom
