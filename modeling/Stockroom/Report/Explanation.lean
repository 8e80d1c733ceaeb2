import Stockroom.Report.Basic
import Stockroom.Query.Node
import Stockroom.Text.Quoted

/-! # Explanations

How a query is read, as a tree: a node for each clause, with the parts of negations and choices
below it. `keyReport` lists the fields and the keys that name them.
-/
namespace Stockroom

def shownQuoted (t : Text) : Piece := .shown t.quoted

def Tag.label (t : Tag) : Markup :=
  match t.field with
  | none =>
    Markup.within "red" (Markup.ofLiteral "unknown field".toList) ++
      [.literal [' '], shownQuoted t.key, .literal " (never matches)".toList]
  | some field =>
    let mode := if t.value.literal then " literal".toList else []
    Markup.within "cyan" (Markup.ofLiteral field.label) ++
      [.literal (" (".toList ++ field.kindName ++ mode ++ ") ".toList ++ t.operator.symbol ++ [' ']),
       shownQuoted t.value.body]

def Pattern.label (p : Pattern) : Markup :=
  let mode := if p.literal then "literal".toList else "text".toList
  Markup.within "green" (Markup.ofLiteral "any field".toList) ++
    [.literal (" (".toList ++ mode ++ ") contains ".toList), shownQuoted p.body]

namespace Node

def label : Node → Markup
  | term pattern => pattern.label
  | tag t => t.label
  | not _ => Markup.within "bold red" (Markup.ofLiteral "NOT".toList)
  | anyOf _ => Markup.within "bold yellow" (Markup.ofLiteral "ANY OF".toList)

mutual

def toTree : Node → Tree
  | term pattern => .node pattern.label []
  | tag t => .node t.label []
  | not inner => .node (label (.not inner)) [inner.toTree]
  | anyOf branches => .node (label (.anyOf branches)) (toTrees branches)

def toTrees : List Node → List Tree
  | [] => []
  | branch :: rest => branch.toTree :: toTrees rest

end

theorem toTrees_eq_map (branches : List Node) : toTrees branches = branches.map toTree := by
  induction branches with
  | nil => rfl
  | cons branch rest ih => simp [toTrees, ih]

end Node

namespace Query

def clauseTrees (q : Query) : List Tree :=
  match q.clauses with
  | [] =>
    let note := "empty query, matches everything".toList
    [.node (Markup.within "dim" (Markup.ofLiteral note)) []]
  | clauses => Node.toTrees clauses

def toTree (q : Query) : Tree :=
  let label := Markup.within "bold" (Markup.ofLiteral "ALL OF".toList)
  .node (label ++ [.literal [' '], shownQuoted q.source]) q.clauseTrees

end Query

def Report.ofQuery (query : Text) : Report := .tree (Query.ofText query).toTree

def keyReport : Report :=
  .table ⟨"Metatag fields".toList, [.styled "Field" "cyan", .plain "Kind", .plain "Keys"],
    Field.keyTable.map fun row =>
      [Markup.ofLiteral row.1.label, Markup.ofLiteral row.1.kindName,
       Markup.ofLiteral (", ".toList.intercalate row.2)]⟩

end Stockroom
