import Stockroom.Text.Folded

/-! # Fields and their keys

The fields of a record that a query can name, and the keys that name them. A key is recognised in
its folded form, so accents, case and surrounding blanks do not matter.
-/
namespace Stockroom

inductive TextField
  | name
  | batteryName
  | brand
  | model
  | type
  | barcode
  | location
  | notes
  | voltage
  | chemistry
  | reason
  | source
  | movement
  deriving DecidableEq, Repr

inductive NumericField
  | quantity
  | gondolaQuantity
  | gondolaLimit
  | packSize
  deriving DecidableEq, Repr

inductive Field
  | text (f : TextField)
  | number (f : NumericField)
  deriving DecidableEq, Repr

namespace TextField

def all : List TextField :=
  [name, batteryName, brand, model, type, barcode, location, notes, voltage, chemistry, reason,
   source, movement]

def searched : List TextField :=
  [name, batteryName, brand, model, type, barcode, location, notes, voltage, chemistry, reason,
   source]

def label : TextField → Text
  | name => "name".toList
  | batteryName => "battery_name".toList
  | brand => "brand".toList
  | model => "model".toList
  | type => "type".toList
  | barcode => "barcode".toList
  | location => "location".toList
  | notes => "notes".toList
  | voltage => "voltage".toList
  | chemistry => "chemistry".toList
  | reason => "reason".toList
  | source => "source".toList
  | movement => "movement".toList

theorem mem_all (f : TextField) : f ∈ all := by cases f <;> decide

end TextField

namespace NumericField

def all : List NumericField := [quantity, gondolaQuantity, gondolaLimit, packSize]

def label : NumericField → Text
  | quantity => "quantity".toList
  | gondolaQuantity => "gondola_quantity".toList
  | gondolaLimit => "gondola_limit".toList
  | packSize => "pack_size".toList

theorem mem_all (f : NumericField) : f ∈ all := by cases f <;> decide

end NumericField

namespace Field

def label : Field → Text
  | text f => f.label
  | number f => f.label

def kindName : Field → Text
  | text _ => "text".toList
  | number _ => "number".toList

def keyTable : List (Field × List Text) :=
  [(number .quantity,
      ["qty".toList, "quantity".toList, "count".toList, "estoque".toList, "stock".toList,
       "qtd".toList]),
   (number .gondolaQuantity, ["gondola".toList, "gondolaqty".toList, "display".toList]),
   (number .gondolaLimit, ["limit".toList, "gondolalimit".toList, "max".toList]),
   (number .packSize, ["pack".toList, "packsize".toList]),
   (text .brand, ["brand".toList, "marca".toList]),
   (text .model, ["model".toList, "modelo".toList]),
   (text .type, ["type".toList, "tipo".toList]),
   (text .barcode, ["barcode".toList, "ean".toList, "code".toList]),
   (text .location, ["loc".toList, "location".toList, "local".toList]),
   (text .voltage, ["volt".toList, "voltage".toList]),
   (text .chemistry, ["chem".toList, "chemistry".toList]),
   (text .reason, ["reason".toList, "motivo".toList]),
   (text .source, ["source".toList, "fonte".toList]),
   (text .batteryName, ["battery".toList, "bateria".toList]),
   (text .movement, ["movement".toList, "movimento".toList])]

def keyForm (key : Text) : Text := key.trim.folded

def ofKey? (key : Text) : Option Field :=
  (keyTable.find? fun row => row.2.contains (keyForm key)).map Prod.fst

end Field

end Stockroom
