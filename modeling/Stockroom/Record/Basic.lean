import Stockroom.Calendar.Timestamp
import Stockroom.Query.Field

/-! # Records

The two kinds of records of a catalog: items kept in stock and entries of the stock history. A query
sees a record only through the values of the fields that it can name. A field that a kind of record
does not have, or that has no value, reads as the empty text or as zero.
-/
namespace Stockroom

inductive Movement
  | inward
  | outward
  deriving DecidableEq, Repr

def Movement.label : Movement → Text
  | .inward => "in".toList
  | .outward => "out".toList

def Movement.ofLabel? (t : Text) : Option Movement :=
  [Movement.inward, .outward].find? fun m => m.label = t

structure Item where
  id : Text
  name : Option Text
  brand : Text
  model : Text
  type : Option Text
  quantity : Int
  gondolaQuantity : Int
  gondolaLimit : Int
  packSize : Int
  barcode : Text
  discontinued : Bool
  location : Option Text
  voltage : Option Text
  chemistry : Option Text
  source : Option Text
  notes : Option Text
  minStockThreshold : Int
  deriving DecidableEq, Repr

structure Entry where
  id : Text
  batteryId : Text
  batteryName : Text
  movement : Movement
  location : Text
  quantity : Int
  reason : Text
  source : Text
  timestamp : Option Timestamp
  deriving DecidableEq, Repr

namespace Item

def text (item : Item) : TextField → Text
  | .name => item.name.getD []
  | .brand => item.brand
  | .model => item.model
  | .type => item.type.getD []
  | .barcode => item.barcode
  | .location => item.location.getD []
  | .notes => item.notes.getD []
  | .voltage => item.voltage.getD []
  | .chemistry => item.chemistry.getD []
  | .source => item.source.getD []
  | .batteryName | .reason | .movement => []

def number (item : Item) : NumericField → Int
  | .quantity => item.quantity
  | .gondolaQuantity => item.gondolaQuantity
  | .gondolaLimit => item.gondolaLimit
  | .packSize => item.packSize

def displayName (item : Item) : Text :=
  match item.name with
  | some (c :: rest) => c :: rest
  | _ => Text.trim (item.brand ++ ' ' :: item.model)

end Item

namespace Entry

def text (entry : Entry) : TextField → Text
  | .batteryName => entry.batteryName
  | .location => entry.location
  | .reason => entry.reason
  | .source => entry.source
  | .movement => entry.movement.label
  | .name | .brand | .model | .type | .barcode | .notes | .voltage | .chemistry => []

def number (entry : Entry) : NumericField → Int
  | .quantity => entry.quantity
  | .gondolaQuantity | .gondolaLimit | .packSize => 0

end Entry

inductive Record
  | item (value : Item)
  | entry (value : Entry)
  deriving DecidableEq, Repr

namespace Record

def text : Record → TextField → Text
  | item value, f => value.text f
  | entry value, f => value.text f

def number : Record → NumericField → Int
  | item value, f => value.number f
  | entry value, f => value.number f

end Record

end Stockroom
