import Stockroom.Proofs.Report.ActiveTags
import Stockroom.Proofs.Report.Explained
import Stockroom.Report.History
import Stockroom.Report.Inventory

/-! # The strings of a report

The strings that a report hands to the terminal have the tags they are written with, each active and
in its place, and no others. One kind of string falls short: the struck-through model of a
discontinued item loses its last tag if the model ends in an odd run of three backslashes or more.
-/
namespace Stockroom

def Table.strings (t : Table) : List Markup :=
  Markup.ofLiteral t.title ::
    (t.columns.map fun column => Markup.ofLiteral column.header) ++ t.rows.flatten

namespace Tree

mutual

def strings : Tree → List Markup
  | node label children => label :: stringsBelow children

def stringsBelow : List Tree → List Markup
  | [] => []
  | child :: rest => child.strings ++ stringsBelow rest

end

theorem stringsBelow_eq_flatMap (trees : List Tree) : stringsBelow trees = trees.flatMap strings := by
  induction trees with
  | nil => rfl
  | cons tree rest ih => rw [stringsBelow, ih, List.flatMap_cons]

end Tree

/-- All strings in which the terminal looks for tags. -/
def Report.strings : Report → List Markup
  | line m => [m]
  | table t => t.strings
  | tree t => t.strings

namespace Text

theorem inert_append {t u : Text} : (t ++ u).Inert ↔ t.Inert ∧ u.Inert := List.forall_mem_append

theorem inert_cons {c : Char} {t : Text} :
    Text.Inert (c :: t) ↔ (c ≠ '[' ∧ c ≠ ']' ∧ c ≠ '\\') ∧ t.Inert :=
  List.forall_mem_cons

theorem inert_ofNat (n : Nat) : (ofNat n).Inert := by
  have hdigit : ∀ d < 10, Text.Inert [d.digitChar] := by decide
  induction n using Nat.strongRecOn with
  | _ n ih =>
    rw [ofNat]
    by_cases hn : n < 10
    · rw [Nat.toDigits_of_lt_base hn]
      exact hdigit n hn
    · have hlast : n % 10 < 10 := Nat.mod_lt n (by decide)
      rw [Nat.toDigits_of_base_le (by decide) (by omega), inert_append]
      exact ⟨ih (n / 10) (by omega), hdigit _ hlast⟩

theorem inert_ofInt (i : Int) : (ofInt i).Inert := by
  cases i with
  | ofNat n => exact inert_ofNat n
  | negSucc n =>
    rw [ofInt, inert_cons]
    exact ⟨by decide, inert_ofNat (n + 1)⟩

theorem inert_padded (width n : Nat) : (padded width n).Inert := by
  rw [padded, inert_append]
  refine ⟨?_, inert_ofNat n⟩
  intro c hc
  rw [List.eq_of_mem_replicate hc]
  decide

end Text

theorem inert_whenText (t : Option Timestamp) : (whenText t).Inert := by
  cases t with
  | none => exact (by decide : Text.Inert ['-'])
  | some t =>
    simp [whenText, Timestamp.minuteText, Text.inert_append, Text.inert_cons, Text.inert_ofNat,
      Text.inert_padded]

theorem Field.inert_label (f : Field) : f.label.Inert := by
  rcases f with f | f <;> cases f <;> decide

theorem Field.inert_kindName (f : Field) : f.kindName.Inert := by
  cases f with
  | text f => exact (by decide : Text.Inert "text".toList)
  | number f => exact (by decide : Text.Inert "number".toList)

theorem Operator.inert_symbol (op : Operator) : op.symbol.Inert := by
  cases op <;> decide

namespace Markup

theorem fixed_ofLiteral {t : Text} (h : t.Inert) : ∀ piece ∈ ofLiteral t, piece.Fixed :=
  List.forall_mem_singleton.mpr h

theorem fixed_within {name : String} (hname : IsTagName name.toList) {m : Markup}
    (hm : ∀ piece ∈ m, piece.Fixed) : ∀ piece ∈ within name m, piece.Fixed := by
  have hclose : IsTagName ('/' :: name.toList) := by
    constructor
    · rfl
    · simpa using hname.not_open
    · simpa using hname.not_close
  simp only [within, List.forall_mem_cons, List.forall_mem_append]
  exact ⟨hname, hm, hclose, List.forall_mem_nil _⟩

theorem asWritten_ofShown (t : Text) : (ofShown t).AsWritten :=
  AsWritten.shown (List.forall_mem_nil _) t

end Markup

open Markup

theorem asWritten_shownOrDash (t : Text) : (shownOrDash t).AsWritten := asWritten_ofShown _

theorem asWritten_nothingFound {things : String} (h : Text.Inert things.toList) (query : Text) :
    ∀ m ∈ (nothingFound things query).strings, m.AsWritten := by
  have hstart : Text.Inert ("No ".toList ++ things.toList ++ " found".toList) := by
    rw [Text.inert_append, Text.inert_append]
    exact ⟨⟨by decide, h⟩, by decide⟩
  rw [nothingFound, Report.strings, List.forall_mem_singleton]
  split
  · apply AsWritten.of_fixed
    apply fixed_within (by decide)
    simp only [List.nil_append, List.forall_mem_cons]
    exact ⟨hstart, by decide, List.forall_mem_nil _⟩
  · have hfront : ∀ piece ∈ [Piece.tag "dim".toList,
        .literal ("No ".toList ++ things.toList ++ " found".toList), .literal " for \"".toList],
        piece.Fixed := by
      simp only [List.forall_mem_cons]
      exact ⟨by decide, hstart, by decide, List.forall_mem_nil _⟩
    have hback : ∀ piece ∈ [Piece.literal ['"'], .literal ['.'], .tag "/dim".toList],
        piece.Fixed := by
      decide
    exact AsWritten.shown_literal hfront hback query

namespace Item

theorem asWritten_gondolaCell (item : Item) : item.gondolaCell.AsWritten := by
  apply AsWritten.of_fixed
  have hcell : Text.Inert
      (Text.ofInt item.gondolaQuantity ++ '/' :: Text.ofInt item.gondolaLimit) := by
    simp [Text.inert_append, Text.inert_cons, Text.inert_ofInt]
  rw [gondolaCell]
  split
  · exact fixed_ofLiteral (Text.inert_ofInt _)
  · split
    · exact fixed_within (by decide) (fixed_ofLiteral hcell)
    · exact fixed_ofLiteral hcell

theorem asWritten_stockCell (item : Item) : item.stockCell.AsWritten := by
  apply AsWritten.of_fixed
  have hcell := fixed_ofLiteral (Text.inert_ofInt item.quantity)
  rw [stockCell]
  split
  · exact fixed_within (by decide) hcell
  · exact hcell

theorem modelCell_of_discontinued {item : Item} (h : item.discontinued = true) :
    item.modelCell = [.tag "strike".toList] ++ [.shown item.model, .tag "/strike".toList] := by
  simp only [modelCell, h, if_true]
  rfl

theorem modelCell_of_current {item : Item} (h : item.discontinued = false) :
    item.modelCell = ofShown item.model := by
  simp [modelCell, h]

theorem asWritten_modelCell_iff (item : Item) :
    item.modelCell.AsWritten ↔ ¬(item.discontinued = true ∧ DisablesTag item.model) := by
  cases hd : item.discontinued with
  | false => simp [modelCell_of_current hd, asWritten_ofShown]
  | true =>
    rw [modelCell_of_discontinued hd, asWritten_shown_tag_iff (by decide) (by decide),
      eq_self_iff_true, true_and]

theorem sublist_tags_modelCell (item : Item) :
    (activeTags item.modelCell.render).Sublist item.modelCell.tags := by
  cases hd : item.discontinued with
  | false =>
    rw [modelCell_of_current hd]
    exact (asWritten_ofShown item.model).sublist
  | true =>
    rw [modelCell_of_discontinued hd]
    exact sublist_tags_shown_tag (by decide) (by decide) item.model

theorem asWritten_of_mem_row {item : Item} {m : Markup} (h : m ∈ item.row) :
    m = item.modelCell ∨ m.AsWritten := by
  simp only [row, List.mem_cons, List.not_mem_nil, or_false] at h
  rcases h with rfl | rfl | rfl | rfl | rfl | rfl | rfl
  · exact .inr (asWritten_ofShown _)
  · exact .inl rfl
  · exact .inr (asWritten_shownOrDash _)
  · exact .inr item.asWritten_stockCell
  · exact .inr item.asWritten_gondolaCell
  · exact .inr (asWritten_shownOrDash _)
  · exact .inr (asWritten_shownOrDash _)

end Item

theorem Movement.asWritten_cell (movement : Movement) : movement.cell.AsWritten := by
  cases movement <;> decide

theorem Entry.asWritten_of_mem_row {entry : Entry} {m : Markup} (h : m ∈ entry.row) :
    m.AsWritten := by
  simp only [row, List.mem_cons, List.not_mem_nil, or_false] at h
  rcases h with rfl | rfl | rfl | rfl | rfl | rfl | rfl
  · exact .of_fixed (fixed_ofLiteral (inert_whenText _))
  · exact asWritten_shownOrDash _
  · exact entry.movement.asWritten_cell
  · exact .of_fixed (fixed_ofLiteral (Text.inert_ofInt _))
  · exact asWritten_shownOrDash _
  · exact asWritten_shownOrDash _
  · exact asWritten_shownOrDash _

theorem Markup.asWritten_headed {name : String} (hname : IsTagName name.toList) {word gap : Text}
    (hword : word.Inert) (hgap : gap.Inert) (t : Text) :
    AsWritten (within name (ofLiteral word) ++ [.literal gap, .shown t]) := by
  have hfront : ∀ piece ∈ within name (ofLiteral word) ++ [.literal gap], piece.Fixed := by
    rw [List.forall_mem_append, List.forall_mem_singleton]
    exact ⟨fixed_within hname (fixed_ofLiteral hword), hgap⟩
  have h := AsWritten.shown hfront t
  rwa [List.append_assoc] at h

theorem Pattern.asWritten_label (p : Pattern) : p.label.AsWritten := by
  have hgap : Text.Inert (" (".toList ++ (if p.literal then "literal".toList else "text".toList) ++
      ") contains ".toList) := by
    cases p.literal <;> decide
  have hword : Text.Inert "any field".toList := by decide
  have hname : IsTagName "green".toList := by decide
  exact asWritten_headed hname hword hgap p.body.quoted

theorem Tag.asWritten_label (t : Tag) : t.label.AsWritten := by
  rw [label]
  split
  · have hfront : ∀ piece ∈ within "red" (ofLiteral "unknown field".toList) ++ [.literal [' ']],
        piece.Fixed := by
      decide
    have hback : ∀ piece ∈ [Piece.literal " (never matches)".toList], piece.Fixed := by decide
    exact AsWritten.shown_literal hfront hback t.key.quoted
  · next field _ =>
    have hmode : Text.Inert (if t.value.literal then " literal".toList else []) := by
      cases t.value.literal <;> decide
    have hgap : Text.Inert (" (".toList ++ field.kindName ++
        (if t.value.literal then " literal".toList else []) ++ ") ".toList ++ t.operator.symbol ++
          [' ']) := by
      simp only [Text.inert_append]
      exact ⟨⟨⟨⟨⟨by decide, field.inert_kindName⟩, hmode⟩, by decide⟩,
        t.operator.inert_symbol⟩, by decide⟩
    have hname : IsTagName "cyan".toList := by decide
    exact asWritten_headed hname field.inert_label hgap t.value.body.quoted

theorem Node.asWritten_label (n : Node) : n.label.AsWritten := by
  cases n with
  | term p => exact p.asWritten_label
  | tag t => exact t.asWritten_label
  | not inner => exact (by decide : (within "bold red" (ofLiteral "NOT".toList)).AsWritten)
  | anyOf branches => exact (by decide : (within "bold yellow" (ofLiteral "ANY OF".toList)).AsWritten)

theorem Table.asWritten_or_mem_row {title : Text} {columns : List Column}
    {rows : List (List Markup)} (htitle : title.Inert)
    (hcolumns : ∀ column ∈ columns, column.header.Inert) {m : Markup}
    (h : m ∈ strings ⟨title, columns, rows⟩) : m.AsWritten ∨ ∃ row ∈ rows, m ∈ row := by
  simp only [strings, List.mem_append, List.mem_cons, List.mem_map, List.mem_flatten] at h
  rcases h with (rfl | ⟨column, hcolumn, rfl⟩) | hrow
  · exact .inl (.of_fixed (fixed_ofLiteral htitle))
  · exact .inl (.of_fixed (fixed_ofLiteral (hcolumns column hcolumn)))
  · exact .inr hrow

namespace Report

theorem asWritten_or_modelCell {items : List Item} {query : Text} {m : Markup}
    (h : m ∈ (ofItems items query).strings) :
    m.AsWritten ∨ ∃ item ∈ items, m = item.modelCell := by
  rw [ofItems] at h
  split at h
  · exact .inl (asWritten_nothingFound (by decide) query m h)
  · rcases Table.asWritten_or_mem_row (by decide) (by decide) h with hm | ⟨row, hrow, hm⟩
    · exact .inl hm
    · obtain ⟨item, hitem, rfl⟩ := List.mem_map.mp hrow
      exact (item.asWritten_of_mem_row hm).symm.imp_right fun hcell => ⟨item, hitem, hcell⟩

theorem asWritten_ofHistory {entries : List Entry} {query : Text} {m : Markup}
    (h : m ∈ (ofHistory entries query).strings) : m.AsWritten := by
  rw [ofHistory] at h
  split at h
  · exact asWritten_nothingFound (by decide) query m h
  · rcases Table.asWritten_or_mem_row (by decide) (by decide) h with hm | ⟨row, hrow, hm⟩
    · exact hm
    · obtain ⟨entry, -, rfl⟩ := List.mem_map.mp hrow
      exact entry.asWritten_of_mem_row hm

end Report

namespace Node

theorem strings_toTree (n : Node) :
    n.toTree.strings = n.label :: n.parts.flatMap fun part => part.toTree.strings := by
  have h : n.toTree = .node n.label (n.parts.map toTree) := by
    cases n with
    | anyOf branches => rw [toTree, toTrees_eq_map, parts]
    | _ => rfl
  rw [h, Tree.strings, Tree.stringsBelow_eq_flatMap, List.flatMap_map]

theorem asWritten_of_mem_strings (n : Node) : ∀ m ∈ n.toTree.strings, m.AsWritten := by
  induction n using parts_induction with
  | step n ih =>
    rw [strings_toTree, List.forall_mem_cons, List.forall_mem_flatMap]
    exact ⟨n.asWritten_label, ih⟩

end Node

theorem Query.asWritten_of_mem_strings (q : Query) : ∀ m ∈ q.toTree.strings, m.AsWritten := by
  have hname : IsTagName "bold".toList := by decide
  have hword : Text.Inert "ALL OF".toList := by decide
  have hgap : Text.Inert [' '] := by decide
  rw [toTree, Tree.strings, List.forall_mem_cons]
  refine ⟨asWritten_headed hname hword hgap q.source.quoted, ?_⟩
  rw [clauseTrees]
  split
  · decide
  · rw [Node.toTrees_eq_map, Tree.stringsBelow_eq_flatMap, List.forall_mem_flatMap]
    intro tree htree
    obtain ⟨n, -, rfl⟩ := List.mem_map.mp htree
    exact n.asWritten_of_mem_strings

/-- What a record or a query says adds no tag to a string and disables none, except for the last one
around a struck-through model. -/
theorem strings_as_written_iff (items : List Item) (entries : List Entry) (query : Text)
    (q : Query) :
    (∀ m ∈ (Report.ofItems items query).strings,
      (activeTags m.render).Sublist m.tags ∧
        (m.AsWritten ↔ ¬∃ item ∈ items,
          item.discontinued = true ∧ DisablesTag item.model ∧ m = item.modelCell)) ∧
    (∀ m ∈ (Report.ofHistory entries query).strings, m.AsWritten) ∧
    ∀ m ∈ (Report.tree q.toTree).strings, m.AsWritten := by
  refine ⟨fun m hm => ?_, fun _ hm => Report.asWritten_ofHistory hm, q.asWritten_of_mem_strings⟩
  rcases Report.asWritten_or_modelCell hm with h | ⟨item, hitem, rfl⟩
  · refine ⟨h.sublist, fun _ => ?_, fun _ => h⟩
    rintro ⟨item, -, hd, hmodel, rfl⟩
    exact item.asWritten_modelCell_iff.mp h ⟨hd, hmodel⟩
  · refine ⟨item.sublist_tags_modelCell, ?_, ?_⟩
    · rintro h ⟨other, -, hd, hmodel, heq⟩
      rw [heq] at h
      exact other.asWritten_modelCell_iff.mp h ⟨hd, hmodel⟩
    · intro h
      rw [item.asWritten_modelCell_iff]
      rintro ⟨hd, hmodel⟩
      exact h ⟨item, hitem, hd, hmodel, rfl⟩

def Item.struck (model : Text) : Item :=
  ⟨[], none, [], model, none, 0, 0, 0, 1, [], true, none, none, none, none, none, 0⟩

/-- One backslash at the end of the model does no harm, since `escape` doubles it. -/
theorem strings_as_written_one_backslash :
    (Item.struck "[b]\\".toList).modelCell.AsWritten ∧
      (∀ m ∈ (Report.ofHistory [] "[b]\\".toList).strings, m.AsWritten) ∧
      ∀ m ∈ (Report.tree (Query.ofText "[b]\\".toList).toTree).strings, m.AsWritten := by
  have hmem : (Item.struck "[b]\\".toList).modelCell ∈
      (Report.ofItems [Item.struck "[b]\\".toList] "[b]\\".toList).strings := by decide
  have hone : ¬∃ item ∈ [Item.struck "[b]\\".toList], item.discontinued = true ∧
      DisablesTag item.model ∧ (Item.struck "[b]\\".toList).modelCell = item.modelCell := by
    decide
  obtain ⟨hitems, hhistory, hquery⟩ := strings_as_written_iff [Item.struck "[b]\\".toList] []
    "[b]\\".toList (Query.ofText "[b]\\".toList)
  exact ⟨(hitems _ hmem).2.mpr hone, hhistory, hquery⟩

/-- Behind three backslashes the closing tag is shown and not obeyed. -/
theorem struck_model_disables_tag :
    (Item.struck "x\\\\\\".toList).modelCell ∈
        (Report.ofItems [Item.struck "x\\\\\\".toList] []).strings ∧
      (Item.struck "x\\\\\\".toList).modelCell.tags =
        [(0, "strike".toList), (12, "/strike".toList)] ∧
      activeTags (Item.struck "x\\\\\\".toList).modelCell.render = [(0, "strike".toList)] := by
  decide

end Stockroom
