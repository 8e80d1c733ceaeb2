import Stockroom.Text.Basic
import Stockroom.Number.Binary64

/-! # Documents

The values of the data format that catalogs are written in. Whole numbers are kept exactly and apart
from binary64 numbers. An object keeps its members as they are written; of members of one name the
last one counts.
-/
namespace Stockroom

inductive Document
  | null
  | bool (value : Bool)
  | integer (value : Int)
  | double (value : Binary64)
  | text (value : Text)
  | list (elements : List Document)
  | object (members : List (Text × Document))
  deriving Repr, Inhabited

abbrev Members := List (Text × Document)

def lastMember? (name : Text) (members : Members) : Option Document :=
  (members.reverse.find? fun m => m.1 = name).map Prod.snd

def Document.member? (name : Text) : Document → Option Document
  | object members => lastMember? name members
  | _ => none

end Stockroom
