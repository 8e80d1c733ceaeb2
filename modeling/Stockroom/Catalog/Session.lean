import Stockroom.Catalog.Loading
import Stockroom.Catalog.Search

/-! # Sessions

A session is a run of actions on one catalog. An action asks, or changes the catalog and shows what
it holds then. An action that fails leaves the catalog as it was.
-/
namespace Stockroom

inductive Action
  | load (path : Text) (octets : Option (List UInt8))
  | searchItems (query : Text) (option : SortOption) (direction : Direction) (limit : Option Int)
  | searchHistory (query : Text) (limit : Option Int)
  | count (query : Text)
  | sortItems (option : SortOption) (direction : Direction)
  | newestFirst
  | keepItems (query : Text)
  | keepHistory (query : Text)
  | add (record : Record)

inductive Reply
  | ids (found : List Text)
  | total (count : Nat)
  | contents (items history : List Text)
  deriving DecidableEq, Repr

inductive ActionFault
  | load (fault : LoadFault)
  | limit (fault : NegativeLimit)
  deriving DecidableEq, Repr

namespace ActionFault

def message : ActionFault → Text
  | load fault => fault.message
  | limit fault => fault.message

def kind? : ActionFault → Option FailureKind
  | load fault => fault.kind?
  | limit _ => some .value

end ActionFault

namespace Catalog

def contents (catalog : Catalog) : Reply :=
  .contents (catalog.items.map Item.id) (catalog.history.map Entry.id)

def add (catalog : Catalog) : Record → Catalog
  | .item value => { catalog with items := catalog.items ++ [value] }
  | .entry value => { catalog with history := catalog.history ++ [value] }

private def changed (catalog : Catalog) : Except ActionFault (Catalog × Reply) :=
  .ok (catalog, catalog.contents)

def perform (catalog : Catalog) : Action → Except ActionFault (Catalog × Reply)
  | .load path octets =>
    match load path octets with
    | .ok loaded => changed loaded
    | .error fault => .error (.load fault)
  | .searchItems query option direction limit =>
    match catalog.searchItems query option direction limit with
    | .ok found => .ok (catalog, .ids (found.map Item.id))
    | .error fault => .error (.limit fault)
  | .searchHistory query limit =>
    match catalog.searchHistory query limit with
    | .ok found => .ok (catalog, .ids (found.map Entry.id))
    | .error fault => .error (.limit fault)
  | .count query =>
    let items := Stockroom.keepItems query catalog.items
    let entries := keepEntries query catalog.history
    .ok (catalog, .total (items.length + entries.length))
  | .sortItems option direction =>
    changed { catalog with items := Stockroom.sortItems option direction catalog.items }
  | .newestFirst => changed { catalog with history := Stockroom.newestFirst catalog.history }
  | .keepItems query => changed { catalog with items := Stockroom.keepItems query catalog.items }
  | .keepHistory query => changed { catalog with history := keepEntries query catalog.history }
  | .add record => changed (catalog.add record)

def act (catalog : Catalog) (action : Action) : Catalog × Except ActionFault Reply :=
  match catalog.perform action with
  | .ok (next, reply) => (next, .ok reply)
  | .error fault => (catalog, .error fault)

def session (catalog : Catalog) : List Action → Catalog × List (Except ActionFault Reply)
  | [] => (catalog, [])
  | action :: actions =>
    let (next, answer) := catalog.act action
    let (last, answers) := next.session actions
    (last, answer :: answers)

end Catalog

end Stockroom
