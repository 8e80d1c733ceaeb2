import Stockroom.Character.Decomposition
import Mathlib.Data.Nat.Bitwise

/-! # Components of decompositions

A character that is a component of a decomposition does not decompose any further, so decompositions
are full. The components and the composed code points are long lists of which this says that they
have nothing in common. Held as the bits of two numbers, that is one operation on numbers.
-/
namespace Stockroom.Character

def bitsOf (codes : List Nat) : Nat := codes.foldr (fun code bits => 1 <<< code ||| bits) 0

theorem testBit_bitsOf (codes : List Nat) (code : Nat) :
    (bitsOf codes).testBit code = decide (code ∈ codes) := by
  induction codes with
  | nil => simp [bitsOf]
  | cons c codes ih =>
    rw [bitsOf] at ih ⊢
    rw [List.foldr_cons, Nat.testBit_or, ih, Nat.one_shiftLeft, Nat.testBit_two_pow]
    simp [eq_comm]

/-- Numbers without a common bit stand for lists without a common code point. -/
theorem not_mem_of_bitsOf {codes others : List Nat} (h : bitsOf codes &&& bitsOf others = 0)
    {code : Nat} (hc : code ∈ codes) : code ∉ others := by
  intro ho
  have hbit := congrArg (Nat.testBit · code) h
  simp [Nat.testBit_and, testBit_bitsOf, hc, ho] at hbit

def tabulated : List Nat :=
  decompositions.map Prod.fst ++ ideographRuns.flatMap fun run => List.range' run.1 run.2.length

def IsComposed (code : Nat) : Prop := code ∈ tabulated ∨ 0xAC00 ≤ code ∧ code ≤ 0xD7A3

/-- The code points that the tables give as parts, and the parts of Hangul syllables. -/
def components : List Nat :=
  decompositions.flatMap Prod.snd ++ ideographRuns.flatMap Prod.snd ++ List.range' 0x1100 0xC3

theorem ideographOf?_eq_none_iff {code : Nat} : ideographOf? code = none ↔
    code ∉ ideographRuns.flatMap fun run => List.range' run.1 run.2.length := by
  rw [ideographOf?, List.findSome?_eq_none_iff, List.mem_flatMap, not_exists]
  refine forall_congr' fun run => ?_
  rw [not_and, List.mem_range'_1]
  refine imp_congr_right fun _ => ?_
  split
  · rw [List.getElem?_eq_none_iff]
    omega
  · simp only [true_iff]
    omega

theorem lookup_eq_none_iff {code : Nat} :
    decompositions.lookup code = none ↔ code ∉ decompositions.map Prod.fst := by
  rw [List.lookup_eq_none_iff, List.mem_map, not_exists]
  refine forall_congr' fun row => ?_
  rw [not_and, bne_iff_ne, ne_comm]

theorem not_mem_tabulated_iff {code : Nat} : code ∉ tabulated ↔
    decompositions.lookup code = none ∧ ideographOf? code = none := by
  rw [tabulated, List.mem_append, not_or, lookup_eq_none_iff, ideographOf?_eq_none_iff]

theorem decompositionOf_eq_self {code : Nat} (h : ¬IsComposed code) :
    decompositionOf code = [code] := by
  rw [IsComposed, not_or, not_mem_tabulated_iff] at h
  obtain ⟨⟨hlookup, hideograph⟩, hhangul⟩ := h
  have hsyllable : ¬(decide (0xAC00 ≤ code) && decide (code ≤ 0xD7A3)) = true := by
    simpa using hhangul
  rw [decompositionOf, if_neg hsyllable, hlookup]
  simp only [hideograph, ite_self]

theorem mem_hangulParts {code part : Nat} (hcode : code ≤ 0xD7A3) (h : part ∈ hangulParts code) :
    part ∈ List.range' 0x1100 0xC3 := by
  rw [List.mem_range'_1]
  simp only [hangulParts, List.mem_append, List.mem_cons, List.not_mem_nil, or_false] at h
  split at h
  · simp only [List.not_mem_nil, or_false] at h
    omega
  · simp only [List.mem_singleton] at h
    omega

theorem mem_components_of_lookup {code part : Nat} {parts : List Nat}
    (h : decompositions.lookup code = some parts) (hpart : part ∈ parts) : part ∈ components := by
  obtain ⟨front, back, hrows, -⟩ := List.lookup_eq_some_iff.mp h
  have hrow : (code, parts) ∈ decompositions := by
    rw [hrows]
    exact List.mem_append_right front List.mem_cons_self
  exact List.mem_append_left _ (List.mem_append_left _ (List.mem_flatMap.mpr ⟨_, hrow, hpart⟩))

theorem mem_components_of_ideographOf? {code image : Nat} (h : ideographOf? code = some image) :
    image ∈ components := by
  obtain ⟨run, hrun, himage⟩ := List.exists_of_findSome?_eq_some h
  split at himage
  · have hpart : image ∈ ideographRuns.flatMap Prod.snd :=
      List.mem_flatMap.mpr ⟨run, hrun, List.mem_of_getElem? himage⟩
    exact List.mem_append_left _ (List.mem_append_right _ hpart)
  · cases himage

theorem not_isComposed_of_lt {code : Nat} (h : code < 0xC0) : ¬IsComposed code := by
  have hfirst : ∀ code ∈ tabulated, 0xC0 ≤ code := by
    decide +kernel
  rintro (htable | hhangul)
  · have hcode := hfirst code htable
    omega
  · omega

/-- A part of a decomposition is a component, unless the code point stands for itself. -/
theorem mem_decompositionOf {code part : Nat} (h : part ∈ decompositionOf code) :
    part = code ∧ ¬IsComposed code ∨ part ∈ components := by
  rw [decompositionOf] at h
  split at h
  · next hcode => exact .inl ⟨List.mem_singleton.mp h, not_isComposed_of_lt hcode⟩
  split at h
  · next hhangul =>
    simp only [Bool.and_eq_true, decide_eq_true_eq] at hhangul
    exact .inr (List.mem_append_right _ (mem_hangulParts hhangul.2 h))
  · next hhangul =>
    simp only [Bool.and_eq_true, decide_eq_true_eq] at hhangul
    split at h
    · next parts hlookup => exact .inr (mem_components_of_lookup hlookup h)
    · next hlookup =>
      split at h
      · next image hideograph =>
        rw [List.mem_singleton.mp h]
        exact .inr (mem_components_of_ideographOf? hideograph)
      · next hideograph =>
        have hcode : ¬IsComposed code := by
          rw [IsComposed, not_or, not_mem_tabulated_iff]
          exact ⟨⟨hlookup, hideograph⟩, hhangul⟩
        exact .inl ⟨List.mem_singleton.mp h, hcode⟩

theorem not_isComposed_of_mem_components {part : Nat} (h : part ∈ components) :
    ¬IsComposed part := by
  have hbits : bitsOf components &&& bitsOf tabulated = 0 := by
    decide +kernel
  have hhangul : ∀ part ∈ components, ¬(0xAC00 ≤ part ∧ part ≤ 0xD7A3) := by
    decide +kernel
  rintro (htable | hsyllable)
  · exact not_mem_of_bitsOf hbits h htable
  · exact hhangul part h hsyllable

theorem toNat_ofNat {code : Nat} (h : code.isValidChar) : (Char.ofNat code).toNat = code := by
  rw [Char.ofNat, dif_pos h]
  rfl

theorem decomposition_eq_self {c : Char} (h : ¬IsComposed c.toNat) : decomposition c = [c] := by
  rw [decomposition, decompositionOf_eq_self h, List.map_singleton, Char.ofNat_toNat]

theorem mem_decomposition {c d : Char} (h : d ∈ decomposition c) :
    d = c ∧ ¬IsComposed c.toNat ∨ d.toNat ∈ components := by
  have hvalid : ∀ part ∈ components, part.isValidChar := by
    decide +kernel
  obtain ⟨part, hpart, rfl⟩ := List.mem_map.mp h
  rcases mem_decompositionOf hpart with ⟨rfl, hcode⟩ | hcomponent
  · exact .inl ⟨Char.ofNat_toNat c, hcode⟩
  · rw [toNat_ofNat (hvalid part hcomponent)]
    exact .inr hcomponent

/-- Decompositions are full: no character in one decomposes. -/
theorem not_isComposed_of_mem_decomposition {c d : Char} (h : d ∈ decomposition c) :
    ¬IsComposed d.toNat := by
  rcases mem_decomposition h with ⟨rfl, hself⟩ | hcomponent
  · exact hself
  · exact not_isComposed_of_mem_components hcomponent

end Stockroom.Character
