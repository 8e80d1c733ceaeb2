import Stockroom.Text.Folded

/-! # Characters that survive folding

Folding decomposes, reorders, drops diacritics and lowers. The reordering of marks is a permutation
and loses nothing, so an ASCII character other than a capital letter comes through as it is.
-/
namespace Stockroom.Text
open Character

theorem perm_insertMark (c : Char) (t : Text) : (insertMark c t).Perm (c :: t) := by
  induction t with
  | nil => exact .refl _
  | cons d t ih =>
    rw [insertMark]
    split
    · exact (ih.cons d).trans (.swap c d t)
    · exact .refl _

theorem perm_reorder (t : Text) : (reorder t).Perm t := by
  induction t with
  | nil => exact .refl _
  | cons c t ih => exact (perm_insertMark c (reorder t)).trans (ih.cons c)

/-- Only the capital sigma has a lower case that depends on its place. -/
theorem lowerCase_mem_lowerAfter {c : Char} {t : Text} (h : c ∈ t) (hc : c ≠ 'Σ') (cased : Bool) :
    lowerCase c ∈ lowerAfter cased t := by
  induction t generalizing cased with
  | nil => cases h
  | cons d t ih =>
    rw [lowerAfter]
    rcases List.mem_cons.mp h with rfl | h
    · rw [if_neg hc]
      exact List.mem_cons_self
    · exact List.mem_cons_of_mem _ (ih h _)

def IsPlainAscii (c : Char) : Prop := c.toNat < 0x80 ∧ ¬(0x41 ≤ c.toNat ∧ c.toNat ≤ 0x5A)

instance (c : Char) : Decidable (IsPlainAscii c) := inferInstanceAs (Decidable (_ ∧ _))

namespace IsPlainAscii

variable {c : Char} (hc : IsPlainAscii c)
include hc

theorem decomposition_eq : decomposition c = [c] := by
  have hcode : c.toNat < 0xC0 := Nat.lt_trans hc.1 (by decide)
  rw [decomposition, decompositionOf, if_pos hcode, List.map_singleton, Char.ofNat_toNat]

theorem isDiacritic_eq_false : isDiacritic c = false := by
  have hcode := hc.1
  simp only [isDiacritic, Bool.and_eq_false_iff, decide_eq_false_iff_not]
  omega

theorem ne_sigma : c ≠ 'Σ' := by
  rintro rfl
  exact absurd hc.1 (by decide)

theorem lowerCase_eq : lowerCase c = c := by
  rw [lowerCase, lowerCaseOf, if_pos hc.1, if_neg (by simpa using hc.2), Char.ofNat_toNat]

end IsPlainAscii

theorem mem_folded {c : Char} {t : Text} (hc : IsPlainAscii c) (h : c ∈ t) : c ∈ t.folded := by
  have hdecomposed : c ∈ t.decomposed := by
    refine (perm_reorder _).symm.subset (List.mem_flatMap.mpr ⟨c, h, ?_⟩)
    rw [hc.decomposition_eq]
    exact List.mem_cons_self
  have hkept : c ∈ withoutDiacritics t.decomposed := by
    rw [withoutDiacritics, List.mem_filter, hc.isDiacritic_eq_false]
    exact ⟨hdecomposed, rfl⟩
  have hmem := lowerCase_mem_lowerAfter hkept hc.ne_sigma false
  rwa [hc.lowerCase_eq] at hmem

end Stockroom.Text
