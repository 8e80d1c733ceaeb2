import Stockroom.Catalog.Basic
import Stockroom.Text.Choice

/-! # Orders of a catalog

Items are ordered by one of five keys, upwards or downwards; history is ordered by instant, newest
first. Every order is stable, in both directions: records with equal keys keep the order they had.
-/
namespace Stockroom

inductive SortOption
  | name
  | brand
  | type
  | stock
  | gondola
  deriving DecidableEq, Repr

inductive Direction
  | ascending
  | descending
  deriving DecidableEq, Repr

namespace SortOption

def all : List SortOption := [name, brand, type, stock, gondola]

def label : SortOption → Text
  | name => "name".toList
  | brand => "brand".toList
  | type => "type".toList
  | stock => "stock_qty".toList
  | gondola => "gondola_qty".toList

def ofLabel? (t : Text) : Option SortOption := all.find? fun o => o.label = t

def read (t : Text) : Except UnknownChoice SortOption :=
  match ofLabel? t with
  | some option => .ok option
  | none => .error ⟨t, "SortOption".toList⟩

/-- Whether an item may stand before another upwards: its key is not the greater one. The name of an
item is its brand and its model joined. -/
def atMost (option : SortOption) (a b : Item) : Bool :=
  match option with
  | name => Text.atMost (Text.caseFolded (a.brand ++ a.model)) (Text.caseFolded (b.brand ++ b.model))
  | brand => Text.atMost a.brand.caseFolded b.brand.caseFolded
  | type => Text.atMost (a.type.getD []).caseFolded (b.type.getD []).caseFolded
  | stock => decide (a.quantity ≤ b.quantity)
  | gondola => decide (a.gondolaQuantity ≤ b.gondolaQuantity)

def allows (option : SortOption) (direction : Direction) (a b : Item) : Bool :=
  match direction with
  | .ascending => option.atMost a b
  | .descending => option.atMost b a

end SortOption

def sortItems (option : SortOption) (direction : Direction) (items : List Item) : List Item :=
  items.mergeSort (option.allows direction)

/-- The instant that an entry is ranked by. An undated entry has the first instant in UTC. -/
def Entry.instant (entry : Entry) : Int :=
  match entry.timestamp with
  | some t => t.instant
  | none => Timestamp.firstInstant

def newestFirst (entries : List Entry) : List Entry :=
  entries.mergeSort fun a b => decide (b.instant ≤ a.instant)

end Stockroom
