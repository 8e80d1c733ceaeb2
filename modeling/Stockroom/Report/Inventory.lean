import Stockroom.Report.Basic
import Stockroom.Record.Basic

/-! # The inventory table

One row for each item. Stock at or below its threshold is red, a gondola filled to its limit green,
and the model of a discontinued item is struck through.
-/
namespace Stockroom

namespace Item

def gondolaCell (item : Item) : Markup :=
  let quantity := Text.ofInt item.gondolaQuantity
  if item.gondolaLimit = 0 then Markup.ofLiteral quantity
  else
    let cell := Markup.ofLiteral (quantity ++ '/' :: Text.ofInt item.gondolaLimit)
    if item.gondolaLimit ≤ item.gondolaQuantity then Markup.within "green" cell else cell

def stockCell (item : Item) : Markup :=
  let cell := Markup.ofLiteral (Text.ofInt item.quantity)
  if item.minStockThreshold ≠ 0 ∧ item.quantity ≤ item.minStockThreshold then
    Markup.within "red" cell
  else cell

def modelCell (item : Item) : Markup :=
  let cell := Markup.ofShown item.model
  if item.discontinued then Markup.within "strike" cell else cell

def row (item : Item) : List Markup :=
  [Markup.ofShown item.brand, item.modelCell, shownOrDash (item.type.getD []), item.stockCell,
   item.gondolaCell, shownOrDash (item.location.getD []), shownOrDash item.barcode]

end Item

def inventoryColumns : List Column :=
  [.styled "Brand" "cyan", .plain "Model", .plain "Type", .rightSet "Stock", .rightSet "Gondola",
   .plain "Location", .styled "Barcode" "dim"]

def Report.ofItems (items : List Item) (query : Text) : Report :=
  if items.isEmpty then nothingFound "items" query
  else .table ⟨"Inventory".toList, inventoryColumns, items.map Item.row⟩

end Stockroom
