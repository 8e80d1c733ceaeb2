import Stockroom.Character.LowerCase
import Stockroom.Character.CombiningClass
import Stockroom.Proofs.Character.Components

/-! # Small letters

The table of small letters, written out letter by letter. No small letter is a capital, none is a
mark, and none is composed unless its capital is. So a character that is lowered keeps all that
decomposition and canonical order look at, and lowering it once more changes nothing.
-/
namespace Stockroom.Character

def Run.pairs (r : Run) : List (Nat × Nat) :=
  (List.range ((r.last - r.first) / r.stride + 1)).map fun k =>
    (r.first + r.stride * k, r.image + r.stride * k)

def letterPairs : List (Nat × Nat) :=
  Run.pairs ⟨0x41, 0x5A, 1, 0x61⟩ ++ lowerCaseRuns.flatMap Run.pairs

def capitals : List Nat := letterPairs.map Prod.fst

def smallLetters : List Nat := letterPairs.map Prod.snd

/-- The code points of the marks that canonical order moves. -/
def markCodes : List Nat :=
  combiningClassTable.flatMap fun i => List.range' i.1 (i.2.1 + 1 - i.1)

theorem Run.mem_pairs {r : Run} {code : Nat} (h : r.covers code = true) :
    (code, r.send code) ∈ r.pairs := by
  simp only [covers, Bool.and_eq_true, decide_eq_true_eq, beq_iff_eq] at h
  obtain ⟨⟨hfirst, hlast⟩, hstride⟩ := h
  have hk : r.stride * ((code - r.first) / r.stride) = code - r.first := by
    rw [← Nat.add_zero (_ * _), ← hstride, Nat.div_add_mod]
  refine List.mem_map.mpr ⟨(code - r.first) / r.stride, List.mem_range.mpr ?_, ?_⟩
  · exact Nat.lt_succ_of_le (Nat.div_le_div_right (Nat.sub_le_sub_right hlast _))
  · rw [hk, Nat.add_sub_cancel' hfirst, send]

theorem lowerCaseOf_cases (code : Nat) :
    lowerCaseOf code = code ∨ (code, lowerCaseOf code) ∈ letterPairs := by
  rw [lowerCaseOf]
  split
  · split
    · next hcapital =>
      have hcovers : (Run.mk 0x41 0x5A 1 0x61).covers code = true := by
        simp only [Run.covers, Bool.and_eq_true, decide_eq_true_eq, Nat.mod_one] at hcapital ⊢
        exact ⟨hcapital, rfl⟩
      have hsend : (Run.mk 0x41 0x5A 1 0x61).send code = code + 0x20 := by
        simp only [Bool.and_eq_true, decide_eq_true_eq] at hcapital
        simp only [Run.send]
        omega
      exact .inr (List.mem_append_left _ (hsend ▸ Run.mem_pairs hcovers))
    · exact .inl rfl
  · cases himage : imageOf? lowerCaseRuns code with
    | none => exact .inl rfl
    | some image =>
      obtain ⟨r, hr, hcovers, rfl⟩ := imageOf?_eq_some himage
      exact .inr (List.mem_append_right _ (List.mem_flatMap.mpr ⟨r, hr, Run.mem_pairs hcovers⟩))

theorem lowerCase_cases (c : Char) :
    lowerCase c = c ∨ (c.toNat, (lowerCase c).toNat) ∈ letterPairs := by
  have hvalid : ∀ pair ∈ letterPairs, pair.2.isValidChar := by
    decide +kernel
  rw [lowerCase]
  rcases lowerCaseOf_cases c.toNat with hself | hpair
  · rw [hself]
    exact .inl (Char.ofNat_toNat c)
  · rw [toNat_ofNat (hvalid _ hpair)]
    exact .inr hpair

theorem mem_capitals_of_ne {c : Char} (h : lowerCase c ≠ c) : c.toNat ∈ capitals :=
  List.mem_map_of_mem ((lowerCase_cases c).resolve_left h)

theorem mem_smallLetters_of_ne {c : Char} (h : lowerCase c ≠ c) :
    (lowerCase c).toNat ∈ smallLetters :=
  List.mem_map_of_mem ((lowerCase_cases c).resolve_left h)

/-- No small letter is a capital. -/
theorem lowerCase_lowerCase (c : Char) : lowerCase (lowerCase c) = lowerCase c := by
  have hbits : bitsOf smallLetters &&& bitsOf capitals = 0 := by
    decide +kernel
  by_cases h : lowerCase c = c
  · rw [h, h]
  · by_contra hsmall
    exact not_mem_of_bitsOf hbits (mem_smallLetters_of_ne h) (mem_capitals_of_ne hsmall)

theorem lowerCase_ne_sigma (c : Char) : lowerCase c ≠ 'Σ' := by
  have hsigma : lowerCase 'Σ' ≠ 'Σ' := by
    decide +kernel
  intro h
  rw [← h, lowerCase_lowerCase] at hsigma
  exact hsigma rfl

theorem isDiacritic_lowerCase {c : Char} (h : isDiacritic c = false) :
    isDiacritic (lowerCase c) = false := by
  have hsmall : ∀ code ∈ smallLetters, (decide (0x300 ≤ code) && decide (code ≤ 0x36F)) = false := by
    decide +kernel
  by_cases hc : lowerCase c = c
  · rwa [hc]
  · exact hsmall _ (mem_smallLetters_of_ne hc)

theorem combiningClass_eq_zero {c : Char} (h : c.toNat ∉ markCodes) : combiningClass c = 0 := by
  rw [combiningClass, combiningClassOf]
  split
  · rfl
  split
  · next i hi =>
    have hcovers := List.find?_some hi
    simp only [Bool.and_eq_true, decide_eq_true_eq] at hcovers
    refine absurd (List.mem_flatMap.mpr ⟨i, List.mem_of_find?_eq_some hi, ?_⟩) h
    rw [List.mem_range'_1]
    omega
  · rfl

/-- Capitals and small letters are starters. -/
theorem combiningClass_lowerCase (c : Char) : combiningClass (lowerCase c) = combiningClass c := by
  have hbits : bitsOf (capitals ++ smallLetters) &&& bitsOf markCodes = 0 := by
    decide +kernel
  by_cases hc : lowerCase c = c
  · rw [hc]
  · have hsmall := List.mem_append_right capitals (mem_smallLetters_of_ne hc)
    have hcapital := List.mem_append_left smallLetters (mem_capitals_of_ne hc)
    rw [combiningClass_eq_zero (not_mem_of_bitsOf hbits hsmall),
      combiningClass_eq_zero (not_mem_of_bitsOf hbits hcapital)]

/-- A small letter is composed only if its capital is. -/
theorem not_isComposed_lowerCase {c : Char} (h : ¬IsComposed c.toNat) :
    ¬IsComposed (lowerCase c).toNat := by
  have htable : ∀ pair ∈ letterPairs,
      (bitsOf tabulated).testBit pair.2 = true → (bitsOf tabulated).testBit pair.1 = true := by
    decide +kernel
  have hhangul : ∀ pair ∈ letterPairs, ¬(0xAC00 ≤ pair.2 ∧ pair.2 ≤ 0xD7A3) := by
    decide +kernel
  rcases lowerCase_cases c with hself | hpair
  · rwa [hself]
  · rintro (hsmall | hsyllable)
    · have hcapital := htable _ hpair (by rw [testBit_bitsOf, decide_eq_true hsmall])
      rw [testBit_bitsOf, decide_eq_true_eq] at hcapital
      exact h (.inl hcapital)
    · exact hhangul _ hpair hsyllable

end Stockroom.Character
