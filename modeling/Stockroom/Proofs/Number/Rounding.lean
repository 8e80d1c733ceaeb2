import Stockroom.Number.Binary64
import Mathlib.Algebra.Group.Nat.Defs
import Mathlib.Data.Nat.Notation
import Mathlib.Tactic.SplitIfs

/-! # Rounding whole numbers to 53 binary digits

A whole number is rounded to a multiple of a power of two, so large that the quotient has 53 digits.
The numbers that rounding leaves alone are those of 53 significant digits, and no number is rounded
down past a power of two.
-/
namespace Stockroom

def FitsSignificand (n : ℕ) : Prop := ∃ m e : ℕ, m < 2 ^ 53 ∧ n = m * 2 ^ e

theorem roundHalfEven_mul {den : ℕ} (h : 0 < den) (q : ℕ) : roundHalfEven (q * den) den = q := by
  have hr : 2 * (q * den % den) < den := by
    rw [Nat.mul_mod_left]
    exact h
  rw [roundHalfEven, if_pos hr, Nat.mul_div_cancel q h]

theorem div_le_roundHalfEven (num den : ℕ) : num / den ≤ roundHalfEven num den := by
  simp only [roundHalfEven]
  split_ifs <;> omega

/-- The distance between neighbours of 53 digits around a number. -/
def spacing (n : ℕ) : ℕ := 2 ^ (n.log2 - 52)

theorem spacing_pos (n : ℕ) : 0 < spacing n := Nat.two_pow_pos _

theorem nearest53_one (n : ℕ) : nearest53 n 1 = roundHalfEven n (spacing n) * spacing n := by
  simp only [nearest53, spacing, Nat.div_one, Nat.one_mul, Nat.pow_eq]

theorem nearest53_of_dvd {n : ℕ} (h : spacing n ∣ n) : nearest53 n 1 = n := by
  obtain ⟨q, hq⟩ := h
  have hround := roundHalfEven_mul (spacing_pos n) q
  rw [Nat.mul_comm, ← hq] at hround
  rw [nearest53_one, hround, Nat.mul_comm, ← hq]

theorem div_spacing_lt (n : ℕ) : n / spacing n < 2 ^ 53 := by
  rw [Nat.div_lt_iff_lt_mul (spacing_pos n), spacing, ← Nat.pow_add]
  exact Nat.lt_of_lt_of_le Nat.lt_log2_self (Nat.pow_le_pow_right (by decide) (by omega))

theorem spacing_dvd {n : ℕ} (h : FitsSignificand n) : spacing n ∣ n := by
  obtain ⟨m, e, hm, rfl⟩ := h
  by_cases hn : m * 2 ^ e = 0
  · rw [hn]
    exact Nat.dvd_zero _
  · have hlow : 2 ^ (m * 2 ^ e).log2 ≤ m * 2 ^ e := Nat.log2_self_le hn
    have hhigh : m * 2 ^ e < 2 ^ (53 + e) := by
      rw [Nat.pow_add]
      exact Nat.mul_lt_mul_of_pos_right hm (Nat.two_pow_pos e)
    have he : (m * 2 ^ e).log2 < 53 + e :=
      (Nat.pow_lt_pow_iff_right (by decide)).mp (Nat.lt_of_le_of_lt hlow hhigh)
    exact Nat.dvd_mul_left_of_dvd (Nat.pow_dvd_pow 2 (by omega)) m

/-- Rounding leaves exactly the numbers of 53 significant digits alone. -/
theorem nearest53_eq_self_iff {n : ℕ} : nearest53 n 1 = n ↔ FitsSignificand n := by
  constructor
  · intro h
    rw [nearest53_one] at h
    have hdvd : spacing n ∣ n := ⟨_, by rw [Nat.mul_comm]; exact h.symm⟩
    exact ⟨n / spacing n, n.log2 - 52, div_spacing_lt n, (Nat.div_mul_cancel hdvd).symm⟩
  · exact fun h => nearest53_of_dvd (spacing_dvd h)

/-- A power of two is not crossed from above. -/
theorem two_pow_le_nearest53 {n k : ℕ} (h : Nat.pow 2 k ≤ n) : Nat.pow 2 k ≤ nearest53 n 1 := by
  have hn : n ≠ 0 := Nat.pos_iff_ne_zero.mp (Nat.lt_of_lt_of_le (Nat.two_pow_pos k) h)
  have hk : k ≤ n.log2 := (Nat.le_log2 hn).mpr h
  have hdvd : spacing n ∣ 2 ^ n.log2 := Nat.pow_dvd_pow 2 (Nat.sub_le _ _)
  calc 2 ^ k ≤ 2 ^ n.log2 := Nat.pow_le_pow_right (by decide) hk
    _ = 2 ^ n.log2 / spacing n * spacing n := (Nat.div_mul_cancel hdvd).symm
    _ ≤ n / spacing n * spacing n :=
      Nat.mul_le_mul_right _ (Nat.div_le_div_right (Nat.log2_self_le hn))
    _ ≤ roundHalfEven n (spacing n) * spacing n :=
      Nat.mul_le_mul_right _ (div_le_roundHalfEven n _)
    _ = nearest53 n 1 := (nearest53_one n).symm

/-- What is rounded below a power of two has no more decimal digits than that power binary ones. -/
theorem lt_ten_pow_of_nearest53_lt {n j k : ℕ} (h : nearest53 n 1 < Nat.pow 2 j) (hj : j ≤ k) :
    n < 10 ^ k := by
  refine Nat.lt_of_not_le fun hn => ?_
  have hpow : 2 ^ j ≤ n :=
    calc 2 ^ j ≤ 2 ^ k := Nat.pow_le_pow_right Nat.two_pos hj
      _ ≤ 10 ^ k := Nat.pow_le_pow_left (by decide) k
      _ ≤ n := hn
  exact Nat.not_lt.mpr (two_pow_le_nearest53 hpow) h

end Stockroom
