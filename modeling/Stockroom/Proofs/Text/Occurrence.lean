import Stockroom.Proofs.Text.Segments
import Stockroom.Proofs.Text.Skeleton
import Stockroom.Proofs.Text.Lowering

/-! # Patterns that occur in the text

A pattern is folded apart from the text. Where it occurs in the text it is found, unless folding
treats the occurrence differently there: canonical order takes a mark across an end of it, or a
capital sigma ends a word on one side only. A pattern with a starter at either end and without
capital sigmas is found wherever it occurs.
-/
namespace Stockroom

namespace Text
open Character

/-- Folding treats a text between two others as if it stood alone. -/
structure FoldsAlone (before t after : Text) : Prop where
  marks_before : SortedApart (skeleton before) (skeleton t)
  marks_after : SortedApart (skeleton t) (skeleton after)
  sigmas : ∀ front back, bare t = front ++ 'Σ' :: back →
    isFinal (bare before ++ front) (back ++ bare after) = isFinal front back

variable {before t after : Text}

theorem bare_between (hbefore : SortedApart (skeleton before) (skeleton t))
    (hafter : SortedApart (skeleton t) (skeleton after)) (ht : skeleton t ≠ []) :
    bare (before ++ t ++ after) = bare before ++ bare t ++ bare after := by
  have hrest : SortedApart (skeleton before) (skeleton (t ++ after)) := by
    rw [skeleton_append]
    exact hbefore.append hafter ht
  rw [List.append_assoc, bare_append hrest, bare_append hafter, List.append_assoc]

theorem FoldsAlone.folded_infix (h : FoldsAlone before t after) :
    folded t <:+: folded (before ++ t ++ after) := by
  rw [folded_eq_lower_bare, folded_eq_lower_bare]
  by_cases ht : skeleton t = []
  · rw [bare, ht]
    exact List.nil_infix
  · rw [bare_between h.marks_before h.marks_after ht]
    exact lower_infix h.sigmas

/-- No surroundings matter to a text with a starter at either end and without capital sigmas. -/
theorem FoldsAlone.of_starters (hhead : ∀ c ∈ (skeleton t).head?, isMark c = false)
    (hlast : ∀ c ∈ (skeleton t).getLast?, isMark c = false) (hsigma : 'Σ' ∉ bare t) :
    FoldsAlone before t after where
  marks_before := .of_head hhead
  marks_after := .of_getLast hlast
  sigmas := by
    intro front back ht
    rw [ht] at hsigma
    exact absurd (List.mem_append_right front List.mem_cons_self) hsigma

theorem foldedPattern_eq (h : '_' ∉ t) : foldedPattern t = folded t := by
  have hsame : ∀ c ∈ t, (if c = '_' then ' ' else c) = c := by
    intro c hc
    rw [if_neg]
    rintro rfl
    exact h hc
  rw [foldedPattern, replaceChar, List.map_congr_left hsame, List.map_id']

end Text

namespace Pattern
open Text

theorem foundIn_of_infix {body t : Text} (h : body.foldedPattern <:+: t.folded) (literal : Bool) :
    (mk body literal).foundIn t = true := by
  obtain ⟨gap, tail, ht⟩ := h
  have hliteral : (mk body true).foundIn t = true :=
    foundIn_literal_iff.mpr ⟨gap, tail, by rw [← ht, List.append_assoc]⟩
  cases literal with
  | true => exact hliteral
  | false => exact foundIn_of_literal hliteral

theorem foundIn_of_foldsAlone {before body after : Text} (hbody : '_' ∉ body)
    (h : FoldsAlone before body after) (literal : Bool) :
    (mk body literal).foundIn (before ++ body ++ after) = true := by
  refine foundIn_of_infix ?_ literal
  rw [foldedPattern_eq hbody]
  exact h.folded_infix

/-- A pattern without underscores is found wherever it occurs, as long as folding treats the
occurrence as if it stood alone. Folding does so in every context if the pattern has a starter at
either end and no capital sigma. -/
theorem occurrence_found {body : Text} (hbody : '_' ∉ body) :
    (∀ before after, FoldsAlone before body after →
      ∀ literal, (mk body literal).foundIn (before ++ body ++ after) = true) ∧
    ((∀ c ∈ (skeleton body).head?, isMark c = false) →
      (∀ c ∈ (skeleton body).getLast?, isMark c = false) → 'Σ' ∉ bare body →
      ∀ before after literal, (mk body literal).foundIn (before ++ body ++ after) = true) := by
  refine ⟨fun before after h => foundIn_of_foldsAlone hbody h, ?_⟩
  intro hhead hlast hsigma before after
  exact foundIn_of_foldsAlone hbody (.of_starters hhead hlast hsigma)

/-- The law at a word that ends in a capital sigma, alone and in front of a blank, and at a pattern
that a mark follows. -/
theorem occurrence_found_word :
    FoldsAlone "Ο ".toList "ΑΣ".toList " 5".toList ∧
    (mk "ΑΣ".toList true).foundIn ("Ο ".toList ++ "ΑΣ".toList ++ " 5".toList) = true ∧
    (mk "ab".toList false).foundIn ("x".toList ++ "ab".toList ++ "\u05B0".toList) = true := by
  have hword : bare "ΑΣ".toList = ['Α', 'Σ'] := by decide +kernel
  have h : FoldsAlone "Ο ".toList "ΑΣ".toList " 5".toList := {
    marks_before := by decide +kernel
    marks_after := by decide +kernel
    sigmas := by
      intro front back hbare
      rw [hword] at hbare
      obtain ⟨rfl, rfl⟩ : front = ['Α'] ∧ back = [] := by
        simpa [List.cons_eq_append_iff] using hbare
      decide +kernel }
  have hskeleton : skeleton "ab".toList = ['a', 'b'] := by decide +kernel
  have hhead : ∀ c ∈ (skeleton "ab".toList).head?, isMark c = false := by
    rw [hskeleton]
    rintro c ⟨⟩
    decide +kernel
  have hlast : ∀ c ∈ (skeleton "ab".toList).getLast?, isMark c = false := by
    rw [hskeleton]
    rintro c ⟨⟩
    decide +kernel
  exact ⟨h, (occurrence_found (by decide)).1 _ _ h true,
    (occurrence_found (by decide)).2 hhead hlast (by decide +kernel) _ _ false⟩

/-- An occurrence is missed where a letter behind it turns its last sigma, and where a mark behind it
sorts before its last mark. -/
theorem occurrence_missed :
    (mk "ΑΣ".toList true).foundIn ([] ++ "ΑΣ".toList ++ "Α".toList) = false ∧
    (mk "\u05D1\u05BC".toList true).foundIn
      ([] ++ "\u05D1\u05BC".toList ++ "\u05B0".toList) = false := by
  decide +kernel

end Pattern

end Stockroom
