import Stockroom.Catalog.Order
import Stockroom.Proofs.Catalog.Ranking
import Mathlib.Data.Char
import Mathlib.Data.List.Lex
import Mathlib.Data.Sum.Order

/-! # The keys of the orders

Items are ranked by a text or by a number, history by an instant. The order of texts is the
lexicographic order of lists of characters, so each order of a catalog is the ranking by its key.
-/
namespace Stockroom

theorem Text.atMost_iff_le {s t : Text} : s.atMost t = true ↔ s ≤ t := by
  rw [← not_lt]
  induction s generalizing t with
  | nil => simp [atMost]
  | cons c s ih =>
    cases t with
    | nil => simp [atMost]
    | cons d t =>
      have hcd : c.toNat < d.toNat ↔ c < d := Iff.rfl
      rw [atMost, Bool.or_eq_true, Bool.and_eq_true, decide_eq_true_iff, decide_eq_true_iff, ih, hcd,
        List.cons_lt_cons_iff, not_or, not_and]
      constructor
      · rintro (h | ⟨rfl, h⟩)
        · exact ⟨h.not_gt, fun he => absurd he h.ne'⟩
        · exact ⟨lt_irrefl c, fun _ => h⟩
      · rintro ⟨hdc, h⟩
        rcases lt_trichotomy c d with hlt | he | hgt
        · exact .inl hlt
        · exact .inr ⟨he, h he.symm⟩
        · exact absurd hgt hdc

abbrev SortKey := Text ⊕ₗ Int

namespace SortOption

def key (option : SortOption) (item : Item) : SortKey :=
  match option with
  | name => toLex (.inl (item.brand ++ item.model).caseFolded)
  | brand => toLex (.inl item.brand.caseFolded)
  | type => toLex (.inl (item.type.getD []).caseFolded)
  | stock => toLex (.inr item.quantity)
  | gondola => toLex (.inr item.gondolaQuantity)

theorem atMost_iff_le {option : SortOption} {a b : Item} :
    option.atMost a b = true ↔ option.key a ≤ option.key b := by
  cases option with
  | name => exact Text.atMost_iff_le.trans Sum.Lex.inl_le_inl_iff.symm
  | brand => exact Text.atMost_iff_le.trans Sum.Lex.inl_le_inl_iff.symm
  | type => exact Text.atMost_iff_le.trans Sum.Lex.inl_le_inl_iff.symm
  | stock => exact decide_eq_true_iff.trans Sum.Lex.inr_le_inr_iff.symm
  | gondola => exact decide_eq_true_iff.trans Sum.Lex.inr_le_inr_iff.symm

theorem allows_iff (option : SortOption) (direction : Direction) (a b : Item) :
    option.allows direction a b = true ↔ ¬direction.Before (option.key b) (option.key a) := by
  cases direction with
  | ascending => exact atMost_iff_le.trans not_lt.symm
  | descending => exact atMost_iff_le.trans not_lt.symm

end SortOption

theorem sortItems_ranked (option : SortOption) (direction : Direction) (items : List Item) :
    Ranked option.key direction items (sortItems option direction items) :=
  .mergeSort (option.allows_iff direction) items

namespace Timestamp

def start : Timestamp :=
  ⟨⟨1, 1, 1, by decide, by decide, by decide⟩, .midnight, some .utc⟩

def assumingUtc (t : Timestamp) : Timestamp := { t with offset := some (t.offset.getD .utc) }

theorem instant_start : start.instant = firstInstant := by decide

theorem instant_assumingUtc (t : Timestamp) : t.assumingUtc.instant = t.instant := by
  obtain ⟨date, time, offset⟩ := t
  cases offset <;> rfl

end Timestamp

theorem Entry.instant_eq (entry : Entry) :
    entry.instant = (entry.timestamp.getD .start).assumingUtc.instant := by
  rw [Timestamp.instant_assumingUtc, instant]
  cases entry.timestamp with
  | none => exact Timestamp.instant_start.symm
  | some t => rfl

theorem newestFirst_ranked (entries : List Entry) :
    Ranked Entry.instant .descending entries (newestFirst entries) :=
  .mergeSort (fun _ _ => decide_eq_true_iff.trans not_lt.symm) entries

end Stockroom
