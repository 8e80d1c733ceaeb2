import Stockroom.Query.Evaluation
import Stockroom.Record.Reading

/-! # Catalogs

The items of a shop and the history of its stock, as read from one document.
-/
namespace Stockroom

structure Catalog where
  items : List Item
  history : List Entry
  deriving DecidableEq, Repr

namespace Catalog

def itemsName := FieldName.single "items"
def historyName := FieldName.single "history"

def readList {α : Type} (f : FieldName) (check : Document → Checked α) (members : Members) :
    Checked (List α) :=
  match f.find? members with
  | none => .valid []
  | some (name, .list elements) => (Checked.listFrom check 0 elements).under (.name name)
  | some (name, _) => .flawed [⟨[.name name], .listType⟩]

def ofMembers (members : Members) : Checked Catalog :=
  Catalog.mk <$> readList itemsName Item.ofDocument members
    <*> readList historyName Entry.ofDocument members

def ofDocument : Document → Checked Catalog
  | .object members => ofMembers members
  | _ => .flawed [⟨[], .recordType⟩]

end Catalog

def keepItems (query : Text) (items : List Item) : List Item :=
  let q := Query.ofText query
  items.filter fun item => q.holds (.item item)

def keepEntries (query : Text) (entries : List Entry) : List Entry :=
  let q := Query.ofText query
  entries.filter fun entry => q.holds (.entry entry)

end Stockroom
