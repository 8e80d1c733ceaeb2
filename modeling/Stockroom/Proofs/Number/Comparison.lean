import Stockroom.Query.Operator
import Mathlib.Algebra.Order.Ring.Int
import Mathlib.Order.ConditionallyCompleteLattice.Basic
import Mathlib.Order.WithBot
import Mathlib.Data.Int.ConditionallyCompleteOrder

/-! # Comparison with a numeral

A numeral is a place in the order of the whole numbers with a first and a last element added, where
the numerals without a bound stand. Operators relate a whole number to that place, so their laws are
those of a linear order, whichever form the numeral has.
-/
namespace Stockroom

abbrev Place := WithBot (WithTop ℤ)

def Place.ofInt (n : ℤ) : Place := ((n : WithTop ℤ) : Place)

theorem Place.ofInt_le {m n : ℤ} : ofInt m ≤ ofInt n ↔ m ≤ n := by
  rw [ofInt, ofInt, WithBot.coe_le_coe, WithTop.coe_le_coe]

theorem Place.ofInt_lt {m n : ℤ} : ofInt m < ofInt n ↔ m < n := by
  rw [ofInt, ofInt, WithBot.coe_lt_coe, WithTop.coe_lt_coe]

def Numeral.place : Numeral → Place
  | exact value => .ofInt value
  | rounded negative magnitude => .ofInt (signed negative magnitude)
  | unbounded true => ⊥
  | unbounded false => ((⊤ : WithTop ℤ) : Place)

/-- The comparison of a whole number with a numeral is that of the places. -/
theorem Numeral.compareInt_eq (actual : ℤ) (t : Numeral) :
    t.compareInt actual = compare (Place.ofInt actual) t.place := by
  have hint (n : ℤ) : compare actual n = compare (Place.ofInt actual) (Place.ofInt n) := by
    rcases lt_trichotomy actual n with h | rfl | h
    · rw [compare_lt_iff_lt.mpr h, compare_lt_iff_lt.mpr (Place.ofInt_lt.mpr h)]
    · rw [compare_eq_iff_eq.mpr rfl, compare_eq_iff_eq.mpr rfl]
    · rw [compare_gt_iff_gt.mpr h, compare_gt_iff_gt.mpr (Place.ofInt_lt.mpr h)]
  cases t with
  | exact value => exact hint value
  | rounded negative magnitude => exact hint _
  | unbounded negative =>
    cases negative with
    | true => exact (compare_gt_iff_gt.mpr (WithBot.bot_lt_coe (actual : WithTop ℤ))).symm
    | false =>
      exact (compare_lt_iff_lt.mpr (WithBot.coe_lt_coe.mpr (WithTop.coe_lt_top actual))).symm

namespace Operator

def Relates {κ : Type} [LinearOrder κ] : Operator → κ → κ → Prop
  | eq, a, b => a = b
  | gt, a, b => b < a
  | lt, a, b => a < b
  | ge, a, b => b ≤ a
  | le, a, b => a ≤ b

theorem accepts_compare {κ : Type} [LinearOrder κ] {op : Operator} {a b : κ} :
    op.accepts (Ord.compare a b) = true ↔ op.Relates a b := by
  rcases lt_trichotomy a b with h | rfl | h
  · rw [compare_lt_iff_lt.mpr h]
    cases op <;> simp [accepts, Relates, h, h.ne, h.le, h.not_gt, h.not_ge]
  · rw [compare_eq_iff_eq.mpr rfl]
    cases op <;> simp [accepts, Relates]
  · rw [compare_gt_iff_gt.mpr h]
    cases op <;> simp [accepts, Relates, h, h.ne', h.le, h.not_gt, h.not_ge]

variable {actual larger : ℤ} {t : Numeral}

theorem compare_iff {op : Operator} :
    op.compare actual t = true ↔ op.Relates (Place.ofInt actual) t.place := by
  rw [compare, Numeral.compareInt_eq, accepts_compare]

theorem count_compare (actual : ℤ) (t : Numeral) :
    [lt.compare actual t, eq.compare actual t, gt.compare actual t].count true = 1 := by
  simp only [compare]
  cases t.compareInt actual <;> decide

theorem compare_ge (actual : ℤ) (t : Numeral) : ge.compare actual t = !lt.compare actual t := by
  simp only [compare]
  cases t.compareInt actual <;> rfl

theorem compare_le (actual : ℤ) (t : Numeral) : le.compare actual t = !gt.compare actual t := by
  simp only [compare]
  cases t.compareInt actual <;> rfl

/-- What stands behind a numeral, or at it, does so all the more if it grows. -/
theorem compare_of_le {op : Operator} (hop : op = gt ∨ op = ge) (hle : actual ≤ larger)
    (h : op.compare actual t = true) : op.compare larger t = true := by
  have hp := Place.ofInt_le.mpr hle
  rw [compare_iff] at h ⊢
  rcases hop with rfl | rfl
  · exact lt_of_lt_of_le h hp
  · exact le_trans h hp

/-- What stands before a numeral, or at it, does so all the more if it shrinks. -/
theorem compare_of_ge {op : Operator} (hop : op = lt ∨ op = le) (hle : actual ≤ larger)
    (h : op.compare larger t = true) : op.compare actual t = true := by
  have hp := Place.ofInt_le.mpr hle
  rw [compare_iff] at h ⊢
  rcases hop with rfl | rfl
  · exact lt_of_le_of_lt hp h
  · exact le_trans hp h

end Operator

end Stockroom
