import Stockroom.Proofs.Text.MarkOrder

/-! # The skeleton of a text

Folding drops the diacritics after canonical order has moved them. All but the combining grapheme
joiner are marks, so they may as well be dropped before: a text folds to the sorted skeleton without
diacritics, in lower case. Folding therefore depends on the skeleton only.
-/
namespace Stockroom.Text
open Character

/-- The decomposed characters of a text without the diacritics that canonical order may move. -/
def skeleton (t : Text) : Text :=
  (t.flatMap decomposition).filter fun c => !(isDiacritic c && isMark c)

def bare (t : Text) : Text := withoutDiacritics (reorder (skeleton t))

theorem skeleton_append (t u : Text) : skeleton (t ++ u) = skeleton t ++ skeleton u := by
  rw [skeleton, List.flatMap_append, List.filter_append]
  rfl

theorem bare_eq (t : Text) : bare t = withoutDiacritics (decomposed t) := by
  have hkeep : ∀ c, isMark c = false → (!(isDiacritic c && isMark c)) = true := by
    intro c hc
    rw [hc, Bool.and_false]
    rfl
  rw [bare, skeleton, ← filter_reorder hkeep, withoutDiacritics, List.filter_filter, decomposed,
    withoutDiacritics]
  refine List.filter_congr fun c _ => ?_
  cases isDiacritic c <;> rfl

theorem folded_eq_lower_bare (t : Text) : folded t = lower (bare t) := by
  rw [bare_eq]
  rfl

theorem bare_append {t u : Text} (h : SortedApart (skeleton t) (skeleton u)) :
    bare (t ++ u) = bare t ++ bare u := by
  rw [bare, skeleton_append, reorder_append h, withoutDiacritics, List.filter_append]
  rfl

end Stockroom.Text
