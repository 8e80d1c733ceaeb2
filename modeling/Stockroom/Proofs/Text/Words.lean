import Stockroom.Proofs.Text.Skeleton
import Stockroom.Proofs.Text.Lowering
import Stockroom.Proofs.Text.Cutting
import Stockroom.Proofs.Character.SmallLetters

/-! # Folding word by word

A space is a starter that is neither cased nor ignorable, so no mark is sorted across it and no sigma
looks past it; asterisks and underscores are such characters too. Nothing decomposes into one, and
nothing has one for its lower case. Folding therefore works on what stands between them, and a folded
text is cut where the text itself was.
-/
namespace Stockroom.Text
open Character

/-- A character that folding leaves alone, does not make and does not look past. -/
structure Divides (c : Char) : Prop where
  plain : IsPlainAscii c
  not_cased : isCased c = false
  not_ignorable : isCaseIgnorable c = false
  not_component : c.toNat ∉ components
  not_small : c.toNat ∉ smallLetters

theorem divides_space : Divides ' ' := by
  constructor <;> decide +kernel

theorem divides_asterisk : Divides '*' := by
  constructor <;> decide +kernel

theorem divides_underscore : Divides '_' := by
  constructor <;> decide +kernel

namespace Divides

variable {c : Char} (hc : Divides c)
include hc

theorem isMark_eq_false : isMark c = false := by
  have hcode : c.toNat < 0x300 := Nat.lt_trans hc.plain.1 (by decide)
  rw [isMark, combiningClass, combiningClassOf, if_pos hcode]
  rfl

theorem skeleton_eq : skeleton [c] = [c] := by
  rw [skeleton, List.flatMap_singleton, hc.plain.decomposition_eq]
  simp [hc.plain.isDiacritic_eq_false]

theorem bare_eq : bare [c] = [c] := by
  rw [bare, hc.skeleton_eq]
  simp [reorder, insertMark, withoutDiacritics, hc.plain.isDiacritic_eq_false]

theorem bare_append (t u : Text) : bare (t ++ c :: u) = bare t ++ c :: bare u := by
  have hbefore : SortedApart (skeleton t) (skeleton (c :: u)) := by
    apply SortedApart.of_head
    intro d hd
    have hhead : skeleton (c :: u) = c :: skeleton u := by
      rw [← List.singleton_append, skeleton_append, hc.skeleton_eq]
      rfl
    rw [hhead] at hd
    cases hd
    exact hc.isMark_eq_false
  have hbehind : SortedApart (skeleton [c]) (skeleton u) := by
    apply SortedApart.of_getLast
    rw [hc.skeleton_eq]
    rintro d ⟨⟩
    exact hc.isMark_eq_false
  rw [Text.bare_append hbefore, ← List.singleton_append, Text.bare_append hbehind, hc.bare_eq]
  rfl

theorem lower_append (t u : Text) : lower (t ++ c :: u) = lower t ++ c :: lower u := by
  have hfollows : casedFollows (c :: u) = false := by
    rw [casedFollows, hc.not_ignorable, hc.not_cased]
    rfl
  have hbehind (cased : Bool) : casedBehind cased [c] = false := by
    rw [casedBehind, List.foldl_cons, List.foldl_nil, hc.not_ignorable, hc.not_cased]
    rfl
  rw [lower, lowerAfter_append, lowerAfter_cons, if_neg hc.plain.ne_sigma, hc.plain.lowerCase_eq,
    hbehind]
  · rfl
  · intro front back _
    rw [casedFollows_append hfollows]

theorem folded_append (t u : Text) : folded (t ++ c :: u) = folded t ++ c :: folded u := by
  rw [folded_eq_lower_bare, folded_eq_lower_bare, folded_eq_lower_bare, hc.bare_append,
    hc.lower_append]

theorem folded_intercalate (pieces : List Text) :
    folded ([c].intercalate pieces) = [c].intercalate (pieces.map folded) := by
  induction pieces with
  | nil => rfl
  | cons p ps ih =>
    cases ps with
    | nil => simp
    | cons q qs =>
      rw [List.intercalate_cons_cons, List.append_assoc, List.singleton_append, hc.folded_append, ih]
      simp [List.intercalate_cons_cons]

theorem eq_of_mem_decomposition {d : Char} (h : c ∈ decomposition d) : c = d :=
  ((mem_decomposition h).resolve_right hc.not_component).1

theorem eq_of_isSmallForm {d : Char} (h : IsSmallForm d c) : c = d := by
  rcases h with h | ⟨-, h⟩
  · by_contra hne
    rw [h] at hne
    have hsmall := mem_smallLetters_of_ne hne
    rw [← h] at hsmall
    exact hc.not_small hsmall
  · have hplain := hc.plain
    rw [h] at hplain
    exact absurd hplain (by decide)

/-- Folding makes no divider. -/
theorem mem_of_mem_folded {t : Text} (h : c ∈ folded t) : c ∈ t := by
  rw [folded] at h
  obtain ⟨d, hd, hform⟩ := exists_of_mem_lowerAfter h
  obtain rfl := hc.eq_of_isSmallForm hform
  have hdecomposed := (perm_reorder _).subset (List.mem_filter.mp hd).1
  obtain ⟨e, he, hce⟩ := List.mem_flatMap.mp hdecomposed
  rwa [hc.eq_of_mem_decomposition hce]

/-- The pieces of the folded text are the folded pieces of the text. -/
theorem cut_folded (t : Text) : cut c (folded t) = (cut c t).map folded := by
  have hpieces : ∀ piece ∈ (cut c t).map folded, c ∉ piece := by
    intro piece hpiece hmem
    obtain ⟨p, hp, rfl⟩ := List.mem_map.mp hpiece
    exact not_mem_of_mem_cut hp (hc.mem_of_mem_folded hmem)
  have hne : (cut c t).map folded ≠ [] := by
    rw [Ne, List.map_eq_nil_iff]
    exact cut_ne_nil c t
  calc cut c (folded t)
    _ = cut c (folded ([c].intercalate (cut c t))) := by rw [intercalate_cut]
    _ = cut c ([c].intercalate ((cut c t).map folded)) := by rw [hc.folded_intercalate]
    _ = (cut c t).map folded := cut_intercalate hne hpieces

end Divides

theorem replaceChar_append (old new : Char) (t u : Text) :
    replaceChar old new (t ++ u) = replaceChar old new t ++ replaceChar old new u :=
  List.map_append

theorem replaceChar_cons_self (old new : Char) (t : Text) :
    replaceChar old new (old :: t) = new :: replaceChar old new t := by
  rw [replaceChar, List.map_cons, if_pos rfl]
  rfl

theorem replaceChar_cons {old c : Char} (h : c ≠ old) (new : Char) (t : Text) :
    replaceChar old new (c :: t) = c :: replaceChar old new t := by
  rw [replaceChar, List.map_cons, if_neg h]
  rfl

/-- A text is joined anew from its pieces when a character is replaced. -/
theorem replaceChar_eq_intercalate (old new : Char) (t : Text) :
    replaceChar old new t = [new].intercalate (cut old t) := by
  induction t with
  | nil => rfl
  | cons c t ih =>
    by_cases h : c = old
    · rw [h, replaceChar_cons_self, cut_separator, intercalate_nil_cons (cut_ne_nil old t), ih]
    · rw [replaceChar_cons h, cut_cons h, intercalate_lengthenHead c (cut_ne_nil old t), ih]

theorem map_replaceChar_lengthenHead {old new c d : Char}
    (h : ∀ t, replaceChar old new (c :: t) = d :: replaceChar old new t) (pieces : List Text) :
    (lengthenHead c pieces).map (replaceChar old new) =
      lengthenHead d (pieces.map (replaceChar old new)) := by
  cases pieces with
  | nil => exact congrArg (· :: []) (h [])
  | cons p ps => rw [lengthenHead, List.map_cons, List.map_cons, h, lengthenHead]

/-- Where neither of two characters cuts, one may be replaced by the other in each piece. -/
theorem cut_replaceChar {separator old new : Char} (hold : old ≠ separator) (hnew : new ≠ separator)
    (t : Text) : cut separator (replaceChar old new t) =
      (cut separator t).map (replaceChar old new) := by
  induction t with
  | nil => rfl
  | cons c t ih =>
    by_cases hc : c = old
    · rw [hc, replaceChar_cons_self, cut_cons hnew, cut_cons hold, ih,
        map_replaceChar_lengthenHead (replaceChar_cons_self old new)]
    · by_cases hs : c = separator
      · rw [replaceChar_cons hc, hs, cut_separator, cut_separator, ih]
        rfl
      · rw [replaceChar_cons hc, cut_cons hs, cut_cons hs, ih,
          map_replaceChar_lengthenHead (replaceChar_cons hc new)]

/-- The underscores of a pattern may as well become spaces after it is folded. -/
theorem foldedPattern_eq_replaceChar (t : Text) :
    foldedPattern t = replaceChar '_' ' ' (folded t) := by
  rw [foldedPattern, replaceChar_eq_intercalate, divides_space.folded_intercalate,
    replaceChar_eq_intercalate, divides_underscore.cut_folded]

theorem cut_foldedPattern (t : Text) : cut '*' (foldedPattern t) = (cut '*' t).map foldedPattern := by
  have hunderscore : '_' ≠ '*' := by decide
  have hspace : ' ' ≠ '*' := by decide
  rw [foldedPattern, divides_asterisk.cut_folded, cut_replaceChar hunderscore hspace, List.map_map]
  rfl

theorem foldedPattern_append_underscore (t u : Text) :
    foldedPattern (t ++ '_' :: u) = foldedPattern t ++ ' ' :: foldedPattern u := by
  rw [foldedPattern, replaceChar_append, replaceChar_cons_self, divides_space.folded_append]
  rfl

/-- Folding works on what stands between spaces and on what stands between asterisks. A pattern may
be folded before its underscores become spaces, its segments are the folded segments of what was
typed, and an underscore in it divides as a space does. -/
theorem folding_wordwise :
    (∀ t u : Text, folded (t ++ ' ' :: u) = folded t ++ ' ' :: folded u) ∧
    (∀ t u : Text, folded (t ++ '*' :: u) = folded t ++ '*' :: folded u) ∧
    (∀ p : Text, foldedPattern p = replaceChar '_' ' ' (folded p)) ∧
    (∀ p : Text, cut '*' (foldedPattern p) = (cut '*' p).map foldedPattern) ∧
    ∀ t u : Text, foldedPattern (t ++ '_' :: u) = foldedPattern t ++ ' ' :: foldedPattern u :=
  ⟨divides_space.folded_append, divides_asterisk.folded_append, foldedPattern_eq_replaceChar,
    cut_foldedPattern, foldedPattern_append_underscore⟩

/-- A sigma in front of a segment's end is final, and marks are sorted in each word apart. -/
example : foldedPattern "ΑΣ*Α_ΑΣ._\u05D1\u05BC\u05B0".toList = "ας*α ας. \u05D1\u05B0\u05BC".toList := by
  decide +kernel

end Stockroom.Text
