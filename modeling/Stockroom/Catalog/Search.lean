import Stockroom.Catalog.Order

/-! # Searching a catalog

A search keeps the records that match a query, orders them, and cuts the ranking at a limit. No
limit and the limit zero show everything; a negative limit is refused.
-/
namespace Stockroom

structure NegativeLimit where
  limit : Int
  deriving DecidableEq, Repr

def NegativeLimit.message (n : NegativeLimit) : Text :=
  "limit must be >= 0, got ".toList ++ Text.ofInt n.limit

def cutAt {α : Type} (limit : Option Int) (ranking : List α) : Except NegativeLimit (List α) :=
  match limit with
  | none => .ok ranking
  | some (.ofNat 0) => .ok ranking
  | some (.ofNat n) => .ok (ranking.take n)
  | some (.negSucc n) => .error ⟨.negSucc n⟩

namespace Catalog

def rankItems (catalog : Catalog) (query : Text) (option : SortOption) (direction : Direction) :
    List Item :=
  sortItems option direction (keepItems query catalog.items)

def rankHistory (catalog : Catalog) (query : Text) : List Entry :=
  newestFirst (keepEntries query catalog.history)

def searchItems (catalog : Catalog) (query : Text) (option : SortOption) (direction : Direction)
    (limit : Option Int) : Except NegativeLimit (List Item) :=
  cutAt limit (catalog.rankItems query option direction)

def searchHistory (catalog : Catalog) (query : Text) (limit : Option Int) :
    Except NegativeLimit (List Entry) :=
  cutAt limit (catalog.rankHistory query)

end Catalog

end Stockroom
