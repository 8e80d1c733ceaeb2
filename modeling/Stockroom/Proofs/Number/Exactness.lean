import Stockroom.Proofs.Number.Comparison
import Stockroom.Proofs.Number.Rounding
import Stockroom.Proofs.Number.Spelling

/-! # Where a numeral compares like its number

The numeral that stands in for a number with too many digits compares like the number itself with
every whole number of no more than the allowed digits if the number has more significant digits than
that, for then it lies beyond all of them on either scale, or if rounding leaves it alone. Zeros in
front count as digits, so a number of few significant digits can be written with too many. If it does
not fit into 53 binary digits, the number itself is a whole number that is not found equal to it.
-/
namespace Stockroom.Numeral
open Character

/-- Whole numbers of no more than the allowed digits compare with the numeral as with the number. -/
def StandsFor (t : Numeral) (v : ℤ) : Prop :=
  ∀ (op : Operator) (actual : ℤ), actual.natAbs < 10 ^ digitLimit →
    (op.compare actual t = true ↔ op.Relates actual v)

theorem standsFor_of_compareInt {t : Numeral} {v : ℤ}
    (h : ∀ actual : ℤ, actual.natAbs < 10 ^ digitLimit → t.compareInt actual = compare actual v) :
    t.StandsFor v := by
  intro op actual hactual
  rw [Operator.compare, h actual hactual, Operator.accepts_compare]

theorem StandsFor.compareInt_self {t : Numeral} {v : ℤ} (h : t.StandsFor v)
    (hv : v.natAbs < 10 ^ digitLimit) : t.compareInt v = .eq := by
  have heq : Operator.eq.compare v t = true := (h .eq v hv).mpr rfl
  rw [Operator.compare, Operator.accepts] at heq
  exact Ordering.isEq_iff_eq_eq.mp heq

theorem standsFor_exact (v : ℤ) : (exact v).StandsFor v := standsFor_of_compareInt fun _ _ => rfl

theorem standsFor_rounded (negative : Bool) (n : ℕ) :
    (rounded negative n).StandsFor (signed negative n) :=
  standsFor_of_compareInt fun _ _ => rfl

/-- Beyond all numbers of the allowed digits, an infinity is as good as the number. -/
theorem standsFor_unbounded {n : ℕ} (h : 10 ^ digitLimit ≤ n) (negative : Bool) :
    (unbounded negative).StandsFor (signed negative n) := by
  refine standsFor_of_compareInt fun actual hactual => ?_
  generalize 10 ^ digitLimit = bound at h hactual
  cases negative with
  | true =>
    have hlt : signed true n < actual := by
      rw [signed, if_pos rfl]
      omega
    exact (compare_gt_iff_gt.mpr hlt).symm
  | false =>
    have hlt : actual < signed false n := by
      rw [signed, if_neg Bool.false_ne_true]
      omega
    exact (compare_lt_iff_lt.mpr hlt).symm

theorem natAbs_signed (negative : Bool) (n : ℕ) : (signed negative n).natAbs = n := by
  cases negative <;> simp [signed]

theorem approximate_of_ge {n : ℕ} (h : 10 ^ digitLimit ≤ n) (negative : Bool) :
    approximate negative n = unbounded negative := by
  have hlimit : 1024 ≤ digitLimit := by decide
  rw [approximate]
  split
  · next hlt => exact absurd (lt_ten_pow_of_nearest53_lt hlt hlimit) (Nat.not_lt.mpr h)
  · rfl

theorem approximate_of_fits {n : ℕ} (hn : n < Nat.pow 2 1024) (h : FitsSignificand n)
    (negative : Bool) : approximate negative n = rounded negative n := by
  rw [approximate, nearest53_eq_self_iff.mpr h, if_pos hn]

/-- Only a number that rounding leaves alone is equal to its stand-in. -/
theorem fits_of_compareInt_eq {negative : Bool} {n : ℕ}
    (h : (approximate negative n).compareInt (signed negative n) = .eq) :
    n < Nat.pow 2 1024 ∧ FitsSignificand n := by
  rw [approximate] at h
  split at h
  · next hlt =>
    have hsigned : signed negative n = signed negative (nearest53 n 1) := compare_eq_iff_eq.mp h
    have heq := congrArg Int.natAbs hsigned
    rw [natAbs_signed, natAbs_signed] at heq
    rw [← heq] at hlt
    exact ⟨hlt, nearest53_eq_self_iff.mp heq.symm⟩
  · cases negative <;> cases h

theorem standsFor_approximate_iff {negative : Bool} {n : ℕ} :
    (approximate negative n).StandsFor (signed negative n) ↔
      10 ^ digitLimit ≤ n ∨ n < Nat.pow 2 1024 ∧ FitsSignificand n := by
  constructor
  · intro h
    by_cases hn : 10 ^ digitLimit ≤ n
    · exact .inl hn
    · have hbound : (signed negative n).natAbs < 10 ^ digitLimit := by
        rw [natAbs_signed]
        exact Nat.lt_of_not_le hn
      exact .inr (fits_of_compareInt_eq (h.compareInt_self hbound))
  · rintro (hn | ⟨hn, hfits⟩)
    · rw [approximate_of_ge hn]
      exact standsFor_unbounded hn negative
    · rw [approximate_of_fits hn hfits]
      exact standsFor_rounded negative n

theorem valueOf_zeros_append (k : ℕ) (digits : List ℕ) :
    valueOf (List.replicate k 0 ++ digits) = valueOf digits := by
  induction k with
  | zero => rfl
  | succ k ih =>
    rw [List.replicate_succ, List.cons_append]
    exact ih

def behindZeros (figures : Text) : Text := List.replicate digitLimit '0' ++ figures

theorem opens_behindZeros {figures : Text} {digits : List ℕ}
    (h : figures.map digitValue? = digits.map some) (hne : digits ≠ []) :
    Opens (behindZeros figures) false (List.replicate digitLimit 0 ++ digits) := by
  have hzero : digitValue? '0' = some 0 := by decide +kernel
  have hfigures : (behindZeros figures).map digitValue? =
      (List.replicate digitLimit 0 ++ digits).map some := by
    rw [behindZeros, List.map_append, List.map_append, List.map_replicate, List.map_replicate,
      hzero, h]
  have hspells : Spells ([] ++ ([] ++ behindZeros figures)) false
      (List.replicate digitLimit 0 ++ digits) :=
    .intro (fun _ hc => absurd hc List.not_mem_nil) .absent hfigures
      (List.append_ne_nil_of_right_ne_nil _ hne)
  have hmore : leadingDigits [] = [] := rfl
  simpa using opens_of_spells hspells hmore

/-- Every text opens with a number or with none, which counts as zero. The comparisons of the whole
numbers of at most 4300 digits with the numeral of the text all come out as the comparisons with that
number if and only if it is written with at most 4300 digits, has more than 4300 significant digits,
or is a whole number of the binary format that stands in for it. -/
theorem comparison_exact_iff (t : Text) :
    (∃ negative digits, Opens t negative digits) ∧
    ∀ negative digits, Opens t negative digits →
      ((leading t).StandsFor (signed negative (valueOf digits)) ↔
        digits.length ≤ digitLimit ∨ 10 ^ digitLimit ≤ valueOf digits ∨
          valueOf digits < Nat.pow 2 1024 ∧ FitsSignificand (valueOf digits)) := by
  refine ⟨exists_opens t, fun negative digits h => ?_⟩
  rw [leading_of_opens h]
  by_cases hlength : digits.length ≤ digitLimit
  · have hexact : ofDigits negative digits = exact (signed negative (valueOf digits)) :=
      if_pos hlength
    rw [hexact]
    exact iff_of_true (standsFor_exact _) (.inl hlength)
  · have hrounded : ofDigits negative digits = approximate negative (valueOf digits) :=
      if_neg hlength
    rw [hrounded, or_iff_right hlength]
    exact standsFor_approximate_iff

/-- Behind 4300 zeros twelve is kept, because it has few binary digits. -/
theorem comparison_exact_iff_twelve :
    Opens (behindZeros "12".toList) false (List.replicate digitLimit 0 ++ [1, 2]) ∧
    (leading (behindZeros "12".toList)).StandsFor 12 := by
  have hopens : Opens (behindZeros "12".toList) false (List.replicate digitLimit 0 ++ [1, 2]) :=
    opens_behindZeros (by decide +kernel) (by decide)
  have hvalue : valueOf (List.replicate digitLimit 0 ++ [1, 2]) = 12 := by
    rw [valueOf_zeros_append]
    rfl
  have hstands := ((comparison_exact_iff _).2 _ _ hopens).mpr
  rw [hvalue] at hstands
  exact ⟨hopens, hstands (.inr (.inr ⟨by decide +kernel, 12, 0, by decide, rfl⟩))⟩

/-- Behind 4300 zeros the least odd number of 54 binary digits is not found equal to itself. -/
theorem comparison_rounds_behind_zeros :
    Opens (behindZeros "9007199254740993".toList) false
      (List.replicate digitLimit 0 ++ [9, 0, 0, 7, 1, 9, 9, 2, 5, 4, 7, 4, 0, 9, 9, 3]) ∧
    Operator.eq.compare 9007199254740993 (leading (behindZeros "9007199254740993".toList)) = false := by
  have hopens : Opens (behindZeros "9007199254740993".toList) false
      (List.replicate digitLimit 0 ++ [9, 0, 0, 7, 1, 9, 9, 2, 5, 4, 7, 4, 0, 9, 9, 3]) :=
    opens_behindZeros (by decide +kernel) (by decide)
  have hlong : ¬(List.replicate digitLimit 0 ++
      [9, 0, 0, 7, 1, 9, 9, 2, 5, 4, 7, 4, 0, 9, 9, 3]).length ≤ digitLimit := by
    rw [List.length_append, List.length_replicate]
    exact Nat.not_le.mpr (Nat.lt_add_of_pos_right (by decide))
  have hrounded : leading (behindZeros "9007199254740993".toList) =
      approximate false 9007199254740993 := by
    rw [leading_of_opens hopens, ofDigits, if_neg hlong, valueOf_zeros_append]
    rfl
  rw [hrounded]
  exact ⟨hopens, by decide +kernel⟩

end Stockroom.Numeral
