import Stockroom.Record.Basic
import Stockroom.Record.Checked
import Stockroom.Calendar.Reading
import Stockroom.Document.Basic
import Stockroom.Number.WholeNumber

/-! # Reading records from documents

A record is an object with a member for each field. Every field may be named in either of two
spellings, of which the preferred one counts if both are there. Members of other names are passed
over. Values are taken generously: a number may be written as text, a truth value as a number or a
word, a timestamp in calendar form or as a count of seconds.
-/
namespace Stockroom

structure FieldName where
  plain : Text
  preferred : Text

namespace FieldName

def single (name : String) : FieldName := ⟨name.toList, name.toList⟩

def double (plain preferred : String) : FieldName := ⟨plain.toList, preferred.toList⟩

def find? (f : FieldName) (members : Members) : Option (Text × Document) :=
  match lastMember? f.preferred members with
  | some value => some (f.preferred, value)
  | none => (lastMember? f.plain members).map fun value => (f.plain, value)

end FieldName

namespace Accept

def text : Document → Except Mismatch Text
  | .text value => .ok value
  | _ => .error .textType

def orNull {α : Type} (accept : Document → Except Mismatch α) :
    Document → Except Mismatch (Option α)
  | .null => .ok none
  | value => (accept value).map some

def intText (t : Text) : Except Mismatch Int :=
  match WholeNumber.ofText t with
  | .ok value => .ok value
  | .error .malformed => .error .intForm
  | .error .tooLong => .error .intSize

/-- Whole numbers, truth values as 0 and 1, binary64 numbers that are whole and of less than 64
bits, and written whole numbers. -/
def int : Document → Except Mismatch Int
  | .integer value => .ok value
  | .bool value => .ok (if value then 1 else 0)
  | .double (.finite negative units) =>
    match (Binary64.finite negative units).toInt? with
    | none => .error .intFraction
    | some value => if value.natAbs < Nat.pow 2 63 then .ok value else .error .intSize
  | .double _ => .error .intFinite
  | .text t => intText t
  | _ => .error .intType

def trueWords : List Text :=
  ["1".toList, "true".toList, "t".toList, "yes".toList, "y".toList, "on".toList]

def falseWords : List Text :=
  ["0".toList, "false".toList, "f".toList, "no".toList, "n".toList, "off".toList]

def fits64 (n : Int) : Bool := decide (-(Nat.pow 2 63 : Int) ≤ n ∧ n < (Nat.pow 2 63 : Int))

/-- A truth value as a number: zero or one. A number beyond 64 bits is none at all. -/
def boolNumber (n : Int) : Except Mismatch Bool :=
  if n = 0 then .ok false
  else if n = 1 then .ok true
  else if fits64 n then .error .boolForm
  else .error .boolType

def bool : Document → Except Mismatch Bool
  | .bool value => .ok value
  | .integer n => boolNumber n
  | .double value =>
    match value.toInt? with
    | some n => if n.natAbs < Nat.pow 2 63 then boolNumber n else .error .boolType
    | none => .error .boolType
  | .text t =>
    let word := t.toLowerAscii
    if trueWords.contains word then .ok true
    else if falseWords.contains word then .ok false
    else .error .boolForm
  | _ => .error .boolType

def movement : Document → Except Mismatch Movement
  | .text t => match Movement.ofLabel? t with
    | some m => .ok m
    | none => .error .choice
  | _ => .error .choice

/-- A number that is no time is reported as such, whatever is wrong with it. -/
def timestampNumber (t : Except Timestamp.Fault Timestamp) : Except Mismatch Timestamp :=
  match t with
  | .ok value => .ok value
  | .error _ => .error .timestampForm

/-- A whole number beyond 64 bits counts as the nearest binary64 number, and is no number of time if
there is none. -/
def timestamp : Document → Except Mismatch Timestamp
  | .text t => match Timestamp.ofText t with
    | .ok value => .ok value
    | .error .yearZero => .error .timestampForm
    | .error _ => .error .timestampDateForm
  | .integer count =>
    if fits64 count then timestampNumber (Timestamp.ofCount count)
    else match Binary64.ofInt count with
      | .finite negative units => timestampNumber (Timestamp.ofBinary64 (.finite negative units))
      | _ => .error .timestampType
  | .double count => timestampNumber (Timestamp.ofBinary64 count)
  | _ => .error .timestampType

end Accept

namespace FieldName
variable {α : Type}

/-- The value of a field that must be there. A missing field is reported under the preferred
spelling. -/
def required (f : FieldName) (accept : Document → Except Mismatch α) (members : Members) :
    Checked α :=
  match f.find? members with
  | some (name, value) => (Checked.ofMismatch (accept value)).under (.name name)
  | none => .flawed [⟨[.name f.preferred], .missing⟩]

def optional (f : FieldName) (default : α) (accept : Document → Except Mismatch α)
    (members : Members) : Checked α :=
  match f.find? members with
  | some (name, value) => (Checked.ofMismatch (accept value)).under (.name name)
  | none => .valid default

end FieldName

namespace Item
open FieldName

def idName := single "id"
def nameName := single "name"
def brandName := single "brand"
def modelName := single "model"
def typeName := single "type"
def quantityName := single "quantity"
def gondolaQuantityName := double "gondola_quantity" "gondolaQuantity"
def gondolaLimitName := double "gondola_limit" "gondolaLimit"
def packSizeName := double "pack_size" "packSize"
def barcodeName := single "barcode"
def discontinuedName := single "discontinued"
def locationName := single "location"
def voltageName := single "voltage"
def chemistryName := single "chemistry"
def sourceName := single "source"
def notesName := single "notes"
def minStockThresholdName := double "min_stock_threshold" "minStockThreshold"

def ofMembers (members : Members) : Checked Item :=
  Item.mk <$> idName.optional [] Accept.text members
    <*> nameName.optional none (Accept.orNull Accept.text) members
    <*> brandName.required Accept.text members
    <*> modelName.required Accept.text members
    <*> typeName.optional none (Accept.orNull Accept.text) members
    <*> quantityName.optional 0 Accept.int members
    <*> gondolaQuantityName.optional 0 Accept.int members
    <*> gondolaLimitName.optional 0 Accept.int members
    <*> packSizeName.optional 1 Accept.int members
    <*> barcodeName.optional [] Accept.text members
    <*> discontinuedName.optional false Accept.bool members
    <*> locationName.optional none (Accept.orNull Accept.text) members
    <*> voltageName.optional none (Accept.orNull Accept.text) members
    <*> chemistryName.optional none (Accept.orNull Accept.text) members
    <*> sourceName.optional none (Accept.orNull Accept.text) members
    <*> notesName.optional none (Accept.orNull Accept.text) members
    <*> minStockThresholdName.optional 0 Accept.int members

def ofDocument : Document → Checked Item
  | .object members => ofMembers members
  | _ => .flawed [⟨[], .recordType⟩]

end Item

namespace Entry
open FieldName

def idName := single "id"
def batteryIdName := double "battery_id" "batteryId"
def batteryNameName := double "battery_name" "batteryName"
def movementName := double "movement" "type"
def locationName := single "location"
def quantityName := single "quantity"
def reasonName := single "reason"
def sourceName := single "source"
def timestampName := single "timestamp"

def ofMembers (members : Members) : Checked Entry :=
  Entry.mk <$> idName.optional [] Accept.text members
    <*> batteryIdName.optional [] Accept.text members
    <*> batteryNameName.optional [] Accept.text members
    <*> movementName.required Accept.movement members
    <*> locationName.optional [] Accept.text members
    <*> quantityName.optional 0 Accept.int members
    <*> reasonName.optional [] Accept.text members
    <*> sourceName.optional [] Accept.text members
    <*> timestampName.optional none (Accept.orNull Accept.timestamp) members

def ofDocument : Document → Checked Entry
  | .object members => ofMembers members
  | _ => .flawed [⟨[], .recordType⟩]

end Entry

end Stockroom
