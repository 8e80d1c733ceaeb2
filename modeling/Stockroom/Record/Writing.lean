import Stockroom.Record.Reading

/-! # Writing records to documents

Every field of a record with its value: `null` for a value that is not there, the label of a
movement, the full form of a timestamp. The document of a record names its fields in the plain
spelling.
-/
namespace Stockroom

namespace Document

def ofOptionText : Option Text → Document
  | some t => .text t
  | none => .null

def ofOptionTimestamp : Option Timestamp → Document
  | some t => .text t.toText
  | none => .null

end Document

namespace Item

def fields (item : Item) : List (FieldName × Document) :=
  [(idName, .text item.id),
   (nameName, .ofOptionText item.name),
   (brandName, .text item.brand),
   (modelName, .text item.model),
   (typeName, .ofOptionText item.type),
   (quantityName, .integer item.quantity),
   (gondolaQuantityName, .integer item.gondolaQuantity),
   (gondolaLimitName, .integer item.gondolaLimit),
   (packSizeName, .integer item.packSize),
   (barcodeName, .text item.barcode),
   (discontinuedName, .bool item.discontinued),
   (locationName, .ofOptionText item.location),
   (voltageName, .ofOptionText item.voltage),
   (chemistryName, .ofOptionText item.chemistry),
   (sourceName, .ofOptionText item.source),
   (notesName, .ofOptionText item.notes),
   (minStockThresholdName, .integer item.minStockThreshold)]

def toDocument (item : Item) : Document :=
  .object (item.fields.map fun field => (field.1.plain, field.2))

end Item

namespace Entry

def fields (entry : Entry) : List (FieldName × Document) :=
  [(idName, .text entry.id),
   (batteryIdName, .text entry.batteryId),
   (batteryNameName, .text entry.batteryName),
   (movementName, .text entry.movement.label),
   (locationName, .text entry.location),
   (quantityName, .integer entry.quantity),
   (reasonName, .text entry.reason),
   (sourceName, .text entry.source),
   (timestampName, .ofOptionTimestamp entry.timestamp)]

def toDocument (entry : Entry) : Document :=
  .object (entry.fields.map fun field => (field.1.plain, field.2))

end Entry

end Stockroom
