import Stockroom.Proofs.Query.Forms

/-! # Alternatives of a group

Cutting the inside of a group at `~` and joining the alternatives by `~` undo one another. Empty
alternatives are kept, so nothing is lost in the cut, and the lists that it can give are those of
texts that are each their own only alternative and, but for the last, leave the scan at rest. An
alternative that stands alone is the whole inside, which is what unwrapping relies on.
-/
namespace Stockroom
open Scan

/-- The lists that a text may be cut into. -/
structure AreAlternatives (branches : List Text) : Prop where
  ne_nil : branches ≠ []
  single : ∀ b ∈ branches, alternatives b = [b]
  at_rest : ∀ b ∈ branches.dropLast, rest.run b = rest

variable {t inner branch : Text} {branches : List Text}

theorem run_of_mem_dropLast_alternatives (h : branch ∈ (alternatives inner).dropLast) :
    rest.run branch = rest := by
  obtain ⟨init, last, hi, hr, _⟩ := exists_pieces_eq_concat plain_tilde inner
  rw [alternatives, hi, List.dropLast_concat] at h
  exact hr branch h

/-- What the scan cuts a text into satisfies the conditions, however unbalanced the text is. -/
theorem AreAlternatives.of_text (inner : Text) : AreAlternatives (alternatives inner) where
  ne_nil := pieces_ne_nil '~' rest inner
  single _ h := pieces_of_mem_pieces plain_tilde h
  at_rest _ h := run_of_mem_dropLast_alternatives h

theorem AreAlternatives.alternatives_intercalate (h : AreAlternatives branches) :
    alternatives (['~'].intercalate branches) = branches :=
  pieces_intercalate plain_tilde h.ne_nil h.single h.at_rest

theorem eq_of_alternatives_eq_singleton (h : alternatives inner = [branch]) : branch = inner := by
  have hone : (alternatives inner).length = 1 := congrArg List.length h
  rw [alternatives_eq_singleton hone] at h
  exact (List.singleton_inj.mp h).symm

/-- Parentheses are taken off exactly if there is one alternative between them, which is what is left
then. -/
theorem unwrap?_eq_some_false_iff : unwrap? t = some (false, branch) ↔
    ∃ inner, t = inner.between '(' ')' ∧ alternatives inner = [branch] := by
  constructor
  · intro h
    unfold unwrap? at h
    split at h
    · cases h
    · split at h
      · next inner hi =>
        split at h
        · next hone =>
          cases h
          exact ⟨branch, Text.interior?_eq_some_iff.mp hi, alternatives_eq_singleton hone⟩
        · cases h
      · cases h
  · rintro ⟨inner, rfl, ha⟩
    obtain rfl := eq_of_alternatives_eq_singleton ha
    have hone : (alternatives branch).length = 1 := congrArg List.length ha
    rw [unwrap?_between, if_pos hone]

/-- Every text is cut into at least one alternative and is their join, each is its own only
alternative, and all but the last are at rest behind them. Every list of such texts is what its join
is cut into. What is taken out of parentheses is the only alternative between them, and that is
everything between them. -/
theorem alternatives_undo_join :
    (∀ inner : Text, AreAlternatives (alternatives inner) ∧
      ['~'].intercalate (alternatives inner) = inner) ∧
    (∀ branches, AreAlternatives branches → alternatives (['~'].intercalate branches) = branches) ∧
    (∀ t branch, unwrap? t = some (false, branch) ↔
      ∃ inner, t = inner.between '(' ')' ∧ alternatives inner = [branch]) ∧
    ∀ inner branch, alternatives inner = [branch] → branch = inner :=
  ⟨fun inner => ⟨.of_text inner, intercalate_pieces rest inner⟩,
    fun _ h => h.alternatives_intercalate, fun _ _ => unwrap?_eq_some_false_iff,
    fun _ _ h => eq_of_alternatives_eq_singleton h⟩

/-- A stray parenthesis, an empty text, a group, quoted characters and a group left open, read off
their join; and the last of them as the only alternative between parentheses. -/
theorem alternatives_undo_join_open_group :
    AreAlternatives ["a)".toList, [], "(x~y)".toList, "\"~(\"".toList, "(u~v".toList] ∧
    alternatives "a)~~(x~y)~\"~(\"~(u~v".toList =
      ["a)".toList, [], "(x~y)".toList, "\"~(\"".toList, "(u~v".toList] ∧
    alternatives "(u~v".toList = ["(u~v".toList] ∧
    unwrap? "((u~v)".toList = some (false, "(u~v".toList) := by
  have h : AreAlternatives ["a)".toList, [], "(x~y)".toList, "\"~(\"".toList, "(u~v".toList] := {
    ne_nil := by decide
    single := by decide
    at_rest := by decide }
  have hlast : alternatives "(u~v".toList = ["(u~v".toList] := by decide
  exact ⟨h, alternatives_undo_join.2.1 _ h, hlast,
    (alternatives_undo_join.2.2.1 _ _).mpr ⟨_, rfl, hlast⟩⟩

end Stockroom
