import Stockroom.Proofs.Catalog.Keys
import Mathlib.Data.List.Induction

/-! # Sorts in a row

Items that are sorted several times over end up ranked by all the orders at once. The last order
counts first, an earlier one only among items that all later ones leave equal, and items equal in
every key stand as they stood at the beginning. There is only one such ranking.
-/
namespace Stockroom

section InTurn

variable {α ω κ : Type} [LinearOrder κ] (key : ω → α → κ) (direction : ω → Direction)

/-- The first order that tells two records apart puts the one before the other. -/
def ComesBefore : List ω → α → α → Prop
  | [], _, _ => False
  | order :: orders, a, b =>
    (direction order).Before (key order a) (key order b) ∨
      key order a = key order b ∧ ComesBefore orders a b

def keysOf (orders : List ω) (x : α) : List κ := orders.map fun order => key order x

/-- A ranking by several orders, of which the first counts first. -/
structure RankedInTurn (orders : List ω) (records ranking : List α) : Prop where
  perm : ranking.Perm records
  ordered : ranking.Pairwise fun a b => ¬ComesBefore key direction orders b a
  stable : ∀ keys, (ranking.filter fun x => keysOf key orders x = keys) =
    records.filter fun x => keysOf key orders x = keys

variable {key direction} {order : ω} {orders : List ω} {records ranking other : List α}

omit [LinearOrder κ] in
theorem keysOf_cons (order : ω) (orders : List ω) (x : α) :
    keysOf key (order :: orders) x = key order x :: keysOf key orders x := rfl

theorem filter_keysOf_cons (order : ω) (orders : List ω) (k : κ) (keys : List κ) (xs : List α) :
    (xs.filter fun x => keysOf key (order :: orders) x = k :: keys) =
      (xs.filter fun x => key order x = k).filter fun x => keysOf key orders x = keys := by
  rw [List.filter_filter]
  refine List.filter_congr fun x _ => ?_
  simp [keysOf_cons, Bool.and_comm]

namespace RankedInTurn

theorem refl (records : List α) : RankedInTurn key direction [] records records where
  perm := .refl records
  ordered := List.pairwise_of_forall fun _ _ => not_false
  stable _ := rfl

/-- Ranked once more, a ranking by several orders is a ranking by the new order first. -/
theorem cons (h : RankedInTurn key direction orders records ranking)
    (hnew : Ranked (key order) (direction order) ranking other) :
    RankedInTurn key direction (order :: orders) records other := by
  refine ⟨hnew.perm.trans h.perm, ?_, ?_⟩
  · rw [List.pairwise_iff_forall_sublist]
    rintro a b hab (hbefore | ⟨hkey, hbefore⟩)
    · exact List.pairwise_iff_forall_sublist.mp hnew.ordered hab hbefore
    · have hstood := hnew.sublist_of_key_eq hab hkey.symm
      exact List.pairwise_iff_forall_sublist.mp h.ordered hstood hbefore
  · intro keys
    cases keys with
    | nil => simp [keysOf]
    | cons k keys =>
      rw [filter_keysOf_cons, filter_keysOf_cons, hnew.stable, List.filter_comm, h.stable,
        List.filter_comm]

/-- Of a ranking, the records with one key in the first order are ranked by the others. -/
theorem of_cons (h : RankedInTurn key direction (order :: orders) records ranking) (k : κ) :
    RankedInTurn key direction orders (records.filter fun x => key order x = k)
      (ranking.filter fun x => key order x = k) where
  perm := h.perm.filter _
  ordered := by
    rw [List.pairwise_filter]
    refine h.ordered.imp fun {a b} hab ha hb hbefore => hab (.inr ⟨?_, hbefore⟩)
    rw [of_decide_eq_true ha, of_decide_eq_true hb]
  stable keys := by rw [← filter_keysOf_cons, ← filter_keysOf_cons, h.stable]

theorem unique (h : RankedInTurn key direction orders records ranking)
    (h' : RankedInTurn key direction orders records other) : ranking = other := by
  induction orders generalizing records ranking other with
  | nil =>
    have hr := h.stable []
    have ho := h'.stable []
    simp only [keysOf, List.map_nil, decide_true, List.filter_true] at hr ho
    rw [hr, ho]
  | cons order orders ih =>
    have hclass (k : κ) : (ranking.filter fun x => key order x = k) =
        other.filter fun x => key order x = k := ih (h.of_cons k) (h'.of_cons k)
    refine Ranked.eq_of_filter_eq (d := direction order) ?_ ?_ hclass
    · exact h.ordered.imp fun hab hbefore => hab (.inl hbefore)
    · exact h'.ordered.imp fun hab hbefore => hab (.inl hbefore)

end RankedInTurn

end InTurn

structure ItemOrder where
  option : SortOption
  direction : Direction
  deriving DecidableEq, Repr

namespace ItemOrder

def key (order : ItemOrder) : Item → SortKey := order.option.key

def sort (order : ItemOrder) (items : List Item) : List Item :=
  sortItems order.option order.direction items

theorem sort_ranked (order : ItemOrder) (items : List Item) :
    Ranked order.key order.direction items (order.sort items) :=
  sortItems_ranked order.option order.direction items

theorem sort_sort (order : ItemOrder) (items : List Item) :
    order.sort (order.sort items) = order.sort items :=
  (order.sort_ranked _).unique (order.sort_ranked items).self

end ItemOrder

def sortedBy (orders : List ItemOrder) (items : List Item) : List Item :=
  orders.foldl (fun ranking order => order.sort ranking) items

theorem sortedBy_ranked (orders : List ItemOrder) (items : List Item) :
    RankedInTurn ItemOrder.key ItemOrder.direction orders.reverse items (sortedBy orders items) := by
  induction orders using List.reverseRecOn with
  | nil => exact .refl items
  | append_singleton orders order ih =>
    rw [sortedBy, List.foldl_append, List.reverse_append]
    exact ih.cons (order.sort_ranked _)

theorem sortItems_descending (option : SortOption) (items : List Item) :
    sortItems option .descending items = (sortItems option .ascending items.reverse).reverse := by
  have hback := (sortItems_ranked option .ascending items.reverse).reverse
  rw [List.reverse_reverse] at hback
  exact (sortItems_ranked option .descending items).unique hback

/-- A run of sorts gives the ranking by its orders in turn, the last order first. A sort repeated at
once changes nothing, and sorting downwards is sorting the reversed items upwards, read backwards. -/
theorem sorts_rank_in_turn :
    (∀ (orders : List ItemOrder) (items ranking : List Item),
      RankedInTurn ItemOrder.key ItemOrder.direction orders.reverse items ranking ↔
        ranking = sortedBy orders items) ∧
    (∀ (before after : List ItemOrder) (order : ItemOrder) (items : List Item),
      sortedBy (before ++ order :: order :: after) items =
        sortedBy (before ++ order :: after) items) ∧
    ∀ (option : SortOption) (items : List Item),
      sortItems option .descending items = (sortItems option .ascending items.reverse).reverse := by
  refine ⟨?_, ?_, sortItems_descending⟩
  · intro orders items ranking
    constructor
    · intro h
      exact h.unique (sortedBy_ranked orders items)
    · rintro rfl
      exact sortedBy_ranked orders items
  · intro before after order items
    simp only [sortedBy, List.foldl_append, List.foldl_cons, ItemOrder.sort_sort]

end Stockroom
