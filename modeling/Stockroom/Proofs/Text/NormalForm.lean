import Stockroom.Query.Node
import Stockroom.Proofs.Text.Decorated
import Stockroom.Proofs.Text.Lowering
import Stockroom.Proofs.Character.SmallLetters

/-! # Folded texts are a normal form

Folding leaves a text alone exactly if its marks are sorted, nothing in it is composed, a diacritic or
a capital. A folded text is of this kind. Lowering comes last, but a small letter is composed only if
its capital is and has the class of its capital, so it undoes nothing of what was done before. Only
the combining grapheme joiner stands in the way: a starter that is dropped, it may leave two runs of
marks unsorted.
-/
namespace Stockroom

namespace Text
open Character

/-- Nothing is left in the text for folding to change. -/
structure IsFolded (t : Text) : Prop where
  sorted : IsSorted t
  not_composed : ∀ c ∈ t, ¬IsComposed c.toNat
  not_diacritic : ∀ c ∈ t, isDiacritic c = false
  small : ∀ c ∈ t, lowerCase c = c

variable {t u : Text} {c d : Char}

theorem reorder_eq_self (h : IsSorted t) : reorder t = t := by
  induction t with
  | nil => rfl
  | cons c t ih =>
    rw [reorder_cons, ih h.tail]
    apply insertMark_of_head
    intro d hd
    have hcd := h.rel_head? hd
    simp only [isBelow, decide_eq_false_iff_not]
    omega

theorem lowerAfter_eq_self (h : ∀ c ∈ t, lowerCase c = c) (cased : Bool) :
    lowerAfter cased t = t := by
  induction t generalizing cased with
  | nil => rfl
  | cons c t ih =>
    obtain ⟨hc, ht⟩ := List.forall_mem_cons.mp h
    have hsigma : c ≠ 'Σ' := by
      rw [← hc]
      exact lowerCase_ne_sigma c
    rw [lowerAfter_cons, if_neg hsigma, hc, ih ht]

theorem IsFolded.folded_eq (h : IsFolded t) : folded t = t := by
  have hwhole : ∀ c ∈ t, decomposition c = [c] := fun c hc => decomposition_eq_self (h.not_composed c hc)
  have hdecomposed : decomposed t = t := by
    rw [decomposed, List.flatMap_congr hwhole, List.flatMap_singleton', reorder_eq_self h.sorted]
  have hkept : withoutDiacritics t = t := by
    rw [withoutDiacritics, List.filter_eq_self]
    intro c hc
    rw [h.not_diacritic c hc]
    rfl
  rw [folded, hdecomposed, hkept, lower, lowerAfter_eq_self h.small]

theorem mem_decomposed (h : c ∈ bare t) : ∃ d ∈ t, c ∈ decomposition d := by
  rw [bare_eq] at h
  exact List.mem_flatMap.mp ((perm_reorder _).subset (List.mem_filter.mp h).1)

theorem isDiacritic_of_mem_bare (h : c ∈ bare t) : isDiacritic c = false := by
  simpa using (List.mem_filter.mp h).2

/-- Without the joiner, dropping the marks among the diacritics drops all of them. -/
theorem isDiacritic_of_mem_skeleton (ht : '\u034F' ∉ t) (h : c ∈ skeleton t) :
    isDiacritic c = false := by
  have hjoiner : ('\u034F').toNat ∉ components := by
    decide +kernel
  obtain ⟨hparts, hkept⟩ := List.mem_filter.mp h
  cases hc : isDiacritic c with
  | false => rfl
  | true =>
    have hne : c ≠ '\u034F' := by
      rintro rfl
      obtain ⟨d, hd, hcd⟩ := List.mem_flatMap.mp hparts
      rcases mem_decomposition hcd with ⟨rfl, -⟩ | hcomponent
      · exact ht hd
      · exact hjoiner hcomponent
    have hmark : isMark c = true := isMark_decoration (by simp [isDecoration, hc, hne])
    simp [hc, hmark] at hkept

theorem isSorted_bare (ht : '\u034F' ∉ t) : IsSorted (bare t) := by
  have hall : bare t = reorder (skeleton t) := by
    rw [bare, withoutDiacritics, List.filter_eq_self]
    intro c hc
    rw [isDiacritic_of_mem_skeleton ht ((perm_reorder _).subset hc)]
    rfl
  rw [hall]
  exact isSorted_reorder _

namespace IsSmallForm

variable (h : IsSmallForm c d)
include h

theorem combiningClass_eq : combiningClass d = combiningClass c := by
  rcases h with rfl | ⟨rfl, rfl⟩
  · exact combiningClass_lowerCase c
  · decide +kernel

theorem not_isComposed (hc : ¬IsComposed c.toNat) : ¬IsComposed d.toNat := by
  rcases h with rfl | ⟨rfl, rfl⟩
  · exact not_isComposed_lowerCase hc
  · have hself : 'ς' ∈ decomposition 'ς' := by
      decide +kernel
    exact not_isComposed_of_mem_decomposition hself

theorem isDiacritic_eq_false (hc : isDiacritic c = false) : isDiacritic d = false := by
  rcases h with rfl | ⟨rfl, rfl⟩
  · exact isDiacritic_lowerCase hc
  · decide

theorem lowerCase_eq : lowerCase d = d := by
  rcases h with rfl | ⟨rfl, rfl⟩
  · exact lowerCase_lowerCase c
  · decide +kernel

end IsSmallForm

theorem map_combiningClass_lowerAfter (cased : Bool) (t : Text) :
    (lowerAfter cased t).map combiningClass = t.map combiningClass := by
  rw [← List.forall₂_eq_eq_eq, List.forall₂_map_left_iff, List.forall₂_map_right_iff]
  exact (forall₂_lowerAfter cased t).flip.imp fun _ _ h => IsSmallForm.combiningClass_eq h

/-- Whether a text is sorted depends on the classes only. -/
theorem IsSorted.of_map_eq (h : IsSorted t) (he : u.map combiningClass = t.map combiningClass) :
    IsSorted u := by
  have hclasses : (t.map combiningClass).IsChain fun m n => n = 0 ∨ m ≤ n :=
    (List.isChain_map _).mpr h
  rw [← he] at hclasses
  exact (List.isChain_map _).mp hclasses

theorem exists_isSmallForm_of_mem_folded (h : d ∈ folded t) : ∃ c ∈ bare t, IsSmallForm c d := by
  rw [folded_eq_lower_bare] at h
  exact exists_of_mem_lowerAfter h

theorem isDiacritic_of_mem_folded (h : d ∈ folded t) : isDiacritic d = false := by
  obtain ⟨c, hc, hcd⟩ := exists_isSmallForm_of_mem_folded h
  exact hcd.isDiacritic_eq_false (isDiacritic_of_mem_bare hc)

theorem isFolded_folded (ht : '\u034F' ∉ t) : IsFolded (folded t) where
  sorted := by
    rw [folded_eq_lower_bare]
    exact (isSorted_bare ht).of_map_eq (map_combiningClass_lowerAfter false _)
  not_composed d hd := by
    obtain ⟨c, hc, hcd⟩ := exists_isSmallForm_of_mem_folded hd
    obtain ⟨e, -, hce⟩ := mem_decomposed hc
    exact hcd.not_isComposed (not_isComposed_of_mem_decomposition hce)
  not_diacritic _ hd := isDiacritic_of_mem_folded hd
  small d hd := by
    obtain ⟨c, -, hcd⟩ := exists_isSmallForm_of_mem_folded hd
    exact hcd.lowerCase_eq

/-- The folded texts without the joiner are those that folding leaves alone. -/
theorem folded_eq_self_iff : folded t = t ↔ IsFolded t := by
  refine ⟨fun h => ?_, IsFolded.folded_eq⟩
  have hjoiner : '\u034F' ∉ t := by
    intro hmem
    rw [← h] at hmem
    have hdiacritic := isDiacritic_of_mem_folded hmem
    exact absurd hdiacritic (by decide)
  rw [← h]
  exact isFolded_folded hjoiner

end Text

open Text Character

variable {key : Text}

theorem Field.keyForm_keyForm (hkey : '\u034F' ∉ key) (htrim : (keyForm key).trim = keyForm key) :
    keyForm (keyForm key) = keyForm key := by
  have hinner : '\u034F' ∉ key.trim := fun h => hkey ((trim_sublist key).subset h)
  calc keyForm (keyForm key)
    _ = (keyForm key).folded := by rw [keyForm, htrim]
    _ = keyForm key := (isFolded_folded hinner).folded_eq

theorem Field.ofKey?_keyForm (hkey : '\u034F' ∉ key) (htrim : (keyForm key).trim = keyForm key) :
    ofKey? (keyForm key) = ofKey? key := by
  rw [ofKey?, keyForm_keyForm hkey htrim, ofKey?]

theorem Tag.ofTexts_key_field (key expression : Text) :
    (Tag.ofTexts key expression).key = Field.keyForm key ∧
      (Tag.ofTexts key expression).field = Field.ofKey? key := by
  rw [Tag.ofTexts]
  split
  · exact ⟨rfl, rfl⟩
  · exact ⟨rfl, rfl⟩

/-- Folding leaves alone exactly the texts in normal form, it leaves a folded text alone, and it
leaves no diacritic, as long as there was no combining grapheme joiner in the first place. The form
in which a key is kept is then its own form and names the field of the key, so the key and the field
of a tag agree. A key of which folding lays bare blanks at an end is left out. -/
theorem folded_texts_settle :
    (∀ t : Text, t.folded = t ↔ IsFolded t) ∧
    (∀ t : Text, '\u034F' ∉ t → t.folded.folded = t.folded ∧
      ∀ c ∈ t.folded, isDiacritic c = false) ∧
    ∀ key : Text, '\u034F' ∉ key → (Field.keyForm key).trim = Field.keyForm key →
      Field.keyForm (Field.keyForm key) = Field.keyForm key ∧
      Field.ofKey? (Field.keyForm key) = Field.ofKey? key ∧
      ∀ expression, Field.ofKey? (Tag.ofTexts key expression).key =
        (Tag.ofTexts key expression).field := by
  refine ⟨fun t => folded_eq_self_iff, fun t ht => ?folded, fun key hkey htrim => ?key⟩
  case folded => exact ⟨(isFolded_folded ht).folded_eq, fun c hc => isDiacritic_of_mem_folded hc⟩
  case key =>
    refine ⟨Field.keyForm_keyForm hkey htrim, Field.ofKey?_keyForm hkey htrim, fun expression => ?_⟩
    obtain ⟨hform, hfield⟩ := Tag.ofTexts_key_field key expression
    rw [hform, hfield, Field.ofKey?_keyForm hkey htrim]

/-- Marks out of order around a diacritic, a composed capital and a final sigma; and a key with
blanks around it and a diacritic in it. -/
theorem folded_texts_settle_sample :
    '\u034F' ∉ "\u05D1\u05BC\u0301\u05B0 ΆΣ".toList ∧
    folded (folded "\u05D1\u05BC\u0301\u05B0 ΆΣ".toList) =
      folded "\u05D1\u05BC\u0301\u05B0 ΆΣ".toList ∧
    '\u034F' ∉ " TI\u0301PO\t".toList ∧
    (Field.keyForm " TI\u0301PO\t".toList).trim = Field.keyForm " TI\u0301PO\t".toList ∧
    Field.ofKey? (Field.keyForm " TI\u0301PO\t".toList) = Field.ofKey? " TI\u0301PO\t".toList := by
  have htext : '\u034F' ∉ "\u05D1\u05BC\u0301\u05B0 ΆΣ".toList := by decide
  have hkey : '\u034F' ∉ " TI\u0301PO\t".toList := by decide
  have htrim : (Field.keyForm " TI\u0301PO\t".toList).trim =
      Field.keyForm " TI\u0301PO\t".toList := by
    decide +kernel
  exact ⟨htext, (folded_texts_settle.2.1 _ htext).1, hkey, htrim,
    (folded_texts_settle.2.2 _ hkey htrim).2.1⟩

/-- The joiner keeps two marks out of order, and once it is dropped they change places. -/
example : folded "\u05D1\u05BC\u034F\u05B0".toList = "\u05D1\u05BC\u05B0".toList ∧
    folded "\u05D1\u05BC\u05B0".toList = "\u05D1\u05B0\u05BC".toList := by
  decide +kernel

end Stockroom
