import Stockroom.Report.Basic

/-! # Reports as plain lines

A report for an output that knows no styles: tags are dropped, cells are set apart by bars, and the
children of a tree are indented below their label.
-/
namespace Stockroom

def Piece.plain : Piece → Text
  | tag _ => []
  | literal t => t
  | shown t => t

def Markup.plain (m : Markup) : Text := m.flatMap Piece.plain

def barred (cells : List Text) : Text := " | ".toList.intercalate cells

namespace Tree

mutual

def lines (indent : Text) : Tree → List Text
  | node label children => (indent ++ label.plain) :: linesBelow (indent ++ "  ".toList) children

def linesBelow (indent : Text) : List Tree → List Text
  | [] => []
  | child :: rest => child.lines indent ++ linesBelow indent rest

end

end Tree

def Report.lines : Report → List Text
  | line markup => [markup.plain]
  | table t =>
    t.title :: barred (t.columns.map Column.header) ::
      t.rows.map fun row => barred (row.map Markup.plain)
  | tree t => t.lines []

end Stockroom
