import Stockroom.Proofs.Text.Skeleton
import Stockroom.Proofs.Text.Trimmed
import Stockroom.Query.Field
import Stockroom.Text.Pattern

/-! # Decorated texts

A decorated text has diacritics inserted anywhere. Each of them decomposes into marks that folding
drops, so decoration changes neither the skeleton nor the folded form. It makes no difference to
whether a pattern is found, nor to which field a key names.
-/
namespace Stockroom
open Character

namespace Text

/-- The diacritics but for the combining grapheme joiner, the only one that is no mark. -/
def isDecoration (c : Char) : Bool := isDiacritic c && c ≠ '\u034F'

inductive Decorated : Text → Text → Prop
  | nil : Decorated [] []
  | keep (c : Char) {t' t : Text} (h : Decorated t' t) : Decorated (c :: t') (c :: t)
  | insert {m : Char} (hm : isDecoration m = true) {t' t : Text} (h : Decorated t' t) :
      Decorated (m :: t') t

theorem toNat_decoration {m : Char} (hm : isDecoration m = true) :
    0x300 ≤ m.toNat ∧ m.toNat ≤ 0x36F := by
  simp only [isDecoration, isDiacritic, Bool.and_eq_true, decide_eq_true_eq] at hm
  exact hm.1

theorem of_isDecoration {p : Char → Prop} {m : Char} (hm : isDecoration m = true)
    (h : ∀ k < 0x70, k ≠ 0x4F → p (Char.ofNat (0x300 + k))) : p m := by
  obtain ⟨hfirst, hlast⟩ := toNat_decoration hm
  have hk : m.toNat - 0x300 ≠ 0x4F := by
    intro hk
    have hcode : m.toNat = 0x34F := by omega
    have hjoiner : m = '\u034F' := by rw [← Char.ofNat_toNat m, hcode]
    rw [hjoiner] at hm
    exact absurd hm (by decide)
  have hp := h (m.toNat - 0x300) (by omega) hk
  rwa [Nat.add_sub_cancel' hfirst, Char.ofNat_toNat] at hp

theorem isMark_decoration {m : Char} (hm : isDecoration m = true) : isMark m = true := by
  apply of_isDecoration hm
  decide +kernel

theorem isBlank_decoration {m : Char} (hm : isDecoration m = true) : isBlank m = false := by
  apply of_isDecoration hm
  decide +kernel

theorem decoration_ne_underscore {m : Char} (hm : isDecoration m = true) : m ≠ '_' := by
  rintro rfl
  exact absurd hm (by decide)

theorem ideographOf?_eq_none {code : Nat} (h : code ≤ 0x36F) : ideographOf? code = none := by
  have hruns : ∀ run ∈ ideographRuns, 0x36F < run.1 := by
    decide +kernel
  rw [ideographOf?, List.findSome?_eq_none_iff]
  intro run hrun
  have hbehind := hruns run hrun
  rw [if_neg (by omega)]

/-- A decoration may decompose, but only into decorations. -/
theorem isDecoration_of_mem_decomposition {m c : Char} (hm : isDecoration m = true)
    (hc : c ∈ decomposition m) : isDecoration c = true := by
  have htable : ∀ row ∈ decompositions, 0x300 ≤ row.1 ∧ row.1 ≤ 0x36F →
      ∀ part ∈ row.2, isDecoration (Char.ofNat part) = true := by
    decide +kernel
  have hblock := toNat_decoration hm
  have hhangul : ¬(decide (0xAC00 ≤ m.toNat) && decide (m.toNat ≤ 0xD7A3)) = true := by
    simp only [Bool.and_eq_true, decide_eq_true_eq]
    omega
  rw [decomposition, decompositionOf, if_neg (by omega), if_neg hhangul] at hc
  cases hlookup : decompositions.lookup m.toNat with
  | some parts =>
    rw [hlookup] at hc
    obtain ⟨part, hpart, rfl⟩ := List.mem_map.mp hc
    obtain ⟨front, back, hsplit, -⟩ := List.lookup_eq_some_iff.mp hlookup
    have hrow : (m.toNat, parts) ∈ decompositions := by
      rw [hsplit]
      exact List.mem_append_right _ List.mem_cons_self
    exact htable _ hrow hblock part hpart
  | none =>
    simp only [hlookup, ideographOf?_eq_none hblock.2, List.map_singleton, Char.ofNat_toNat,
      List.mem_singleton] at hc
    rw [hc]
    exact hm

theorem skeleton_decoration {m : Char} (hm : isDecoration m = true) : skeleton [m] = [] := by
  rw [skeleton, List.flatMap_singleton, List.filter_eq_nil_iff]
  intro c hc
  have hdecoration := isDecoration_of_mem_decomposition hm hc
  have hdiacritic : isDiacritic c = true := (Bool.and_eq_true_iff.mp hdecoration).1
  simp [hdiacritic, isMark_decoration hdecoration]

theorem skeleton_cons (c : Char) (t : Text) : skeleton (c :: t) = skeleton [c] ++ skeleton t :=
  skeleton_append [c] t

namespace Decorated

variable {s' s : Text}

theorem skeleton_eq (h : Decorated s' s) : skeleton s' = skeleton s := by
  induction h with
  | nil => rfl
  | @keep c t' t _ ih => rw [skeleton_cons c t', skeleton_cons c t, ih]
  | @insert m hm t' t _ ih => rw [skeleton_cons m t', skeleton_decoration hm, ih, List.nil_append]

theorem folded_eq (h : Decorated s' s) : folded s' = folded s := by
  rw [folded_eq_lower_bare, folded_eq_lower_bare, bare, bare, h.skeleton_eq]

theorem replaceUnderscores (h : Decorated s' s) :
    Decorated (replaceChar '_' ' ' s') (replaceChar '_' ' ' s) := by
  induction h with
  | nil => exact nil
  | keep c _ ih => exact ih.keep _
  | insert hm _ ih =>
    rw [replaceChar, List.map_cons, if_neg (decoration_ne_underscore hm)]
    exact ih.insert hm

theorem foldedPattern_eq (h : Decorated s' s) : foldedPattern s' = foldedPattern s :=
  h.replaceUnderscores.folded_eq

theorem sublist (h : Decorated s' s) : s.Sublist s' := by
  induction h with
  | nil => exact .slnil
  | keep c _ ih => exact ih.cons_cons c
  | insert _ _ ih => exact ih.cons _

theorem head?_not_blank (h : Decorated s' s) (hs : ∀ c ∈ s.head?, isBlank c = false) :
    ∀ c ∈ s'.head?, isBlank c = false := by
  cases h with
  | nil => exact hs
  | keep c _ => exact hs
  | insert hm _ =>
    intro c hc
    cases hc
    exact isBlank_decoration hm

theorem getLast?_not_blank (h : Decorated s' s) (hs : ∀ c ∈ s.getLast?, isBlank c = false) :
    ∀ c ∈ s'.getLast?, isBlank c = false := by
  induction h with
  | nil => exact hs
  | @keep c t' t h ih =>
    intro e he
    rw [List.getLast?_cons, Option.mem_some_iff] at he
    cases hlast : t'.getLast? with
    | none =>
      have ht : t = [] := by
        rw [List.getLast?_eq_none_iff.mp hlast] at h
        exact List.sublist_nil.mp h.sublist
      rw [hlast, Option.getD_none] at he
      rw [ht] at hs
      exact hs e (congrArg some he)
    | some d =>
      rw [hlast, Option.getD_some] at he
      exact he ▸ ih (fun e he => hs e (List.mem_getLast?_cons he)) d hlast
  | @insert m hm t' t _ ih =>
    intro e he
    rw [List.getLast?_cons, Option.mem_some_iff] at he
    cases hlast : t'.getLast? with
    | none =>
      rw [hlast, Option.getD_none] at he
      exact he ▸ isBlank_decoration hm
    | some d =>
      rw [hlast, Option.getD_some] at he
      exact he ▸ ih hs d hlast

theorem trim_eq_self (h : Decorated s' s) (hs : trim s = s) : trim s' = s' := by
  have hstart := trimStart_eq_self_iff.mp (trimStart_eq_self_of_trim hs)
  have hend := trimEnd_eq_self_iff.mp (trimEnd_eq_self_of_trim hs)
  exact Text.trim_eq_self (trimStart_eq_self_iff.mpr (h.head?_not_blank hstart))
    (trimEnd_eq_self_iff.mpr (h.getLast?_not_blank hend))

end Decorated

end Text

open Text

theorem Pattern.foundIn_decorated {t' t p' p : Text} (ht : Decorated t' t) (hp : Decorated p' p)
    (literal : Bool) : foundIn ⟨p', literal⟩ t' = foundIn ⟨p, literal⟩ t := by
  rw [foundIn, foundIn, ht.folded_eq, hp.foldedPattern_eq]

/-- Only the key between the blanks may be decorated, since a blank behind a diacritic stays. -/
theorem Field.ofKey?_decorated {w x w' x' : Text} (hx : trim (w ++ (x ++ w')) = x)
    (h : Decorated x' x) : ofKey? (w ++ (x' ++ w')) = ofKey? (w ++ (x ++ w')) := by
  obtain ⟨hw, hw'⟩ := blank_of_trim_eq hx
  have htrim : trim x = x := by
    rw [← hx, trim_trim]
  have hform : keyForm (w ++ (x' ++ w')) = keyForm (w ++ (x ++ w')) := by
    rw [keyForm, keyForm, trim_append_blank hw hw', hx, h.trim_eq_self htrim, h.folded_eq]
  rw [ofKey?, ofKey?, hform]

/-- Diacritics make no difference, wherever they stand and whatever they decompose into. -/
theorem decorations_ignored :
    (∀ s' s : Text, Decorated s' s → s'.folded = s.folded) ∧
    (∀ (t' t p' p : Text) (literal : Bool), Decorated t' t → Decorated p' p →
      Pattern.foundIn ⟨p', literal⟩ t' = Pattern.foundIn ⟨p, literal⟩ t) ∧
    ∀ w x w' x' : Text, trim (w ++ (x ++ w')) = x → Decorated x' x →
      Field.ofKey? (w ++ (x' ++ w')) = Field.ofKey? (w ++ (x ++ w')) :=
  ⟨fun _ _ h => h.folded_eq, fun _ _ _ _ literal ht hp => Pattern.foundIn_decorated ht hp literal,
    fun _ _ _ _ hx h => Field.ofKey?_decorated hx h⟩

/-- U+0344 decomposes into two marks, and the cedilla is sorted in front of the acute accent that was
there before. -/
theorem decorations_ignored_on_key :
    Decorated "t\u0344i\u0301\u0327po".toList "ti\u0301po".toList ∧
      folded "t\u0344i\u0301\u0327po".toList = folded "ti\u0301po".toList ∧
      Pattern.foundIn ⟨"t\u0344i\u0301\u0327po".toList, false⟩ "t\u0344i\u0301\u0327po".toList =
        Pattern.foundIn ⟨"ti\u0301po".toList, false⟩ "ti\u0301po".toList ∧
      Field.ofKey? ([' '] ++ ("t\u0344i\u0301\u0327po".toList ++ ['\t'])) =
        Field.ofKey? ([' '] ++ ("ti\u0301po".toList ++ ['\t'])) := by
  have h : Decorated "t\u0344i\u0301\u0327po".toList "ti\u0301po".toList :=
    .keep 't' <| .insert (by decide) <| .keep 'i' <| .keep '\u0301' <| .insert (by decide) <|
      .keep 'p' <| .keep 'o' .nil
  have htrim : trim ([' '] ++ ("ti\u0301po".toList ++ ['\t'])) = "ti\u0301po".toList := by decide
  exact ⟨h, decorations_ignored.1 _ _ h, decorations_ignored.2.1 _ _ _ _ false h h,
    decorations_ignored.2.2 _ _ _ _ htrim h⟩

end Stockroom
