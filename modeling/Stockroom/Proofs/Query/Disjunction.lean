import Stockroom.Proofs.Query.Conjunction
import Stockroom.Proofs.Query.Nesting
import Mathlib.Logic.Function.Iterate

/-! # Choices between queries

Texts that can each stand alone as one clause and one alternative make a choice when they are joined
by `~` in parentheses, and the choice holds exactly where one of them does. Around a single text the
parentheses change nothing, however many there are.
-/
namespace Stockroom
open Scan

/-- A closed text that is its own only clause and its own only alternative. -/
structure Standalone (t : Text) : Prop where
  closed : Closed t
  clause : clauseTexts t = [t]
  alternative : alternatives t = [t]

instance (t : Text) : Decidable (Standalone t) :=
  decidable_of_iff (Closed t ∧ clauseTexts t = [t] ∧ alternatives t = [t])
    ⟨fun h => ⟨h.1, h.2.1, h.2.2⟩, fun h => ⟨h.closed, h.clause, h.alternative⟩⟩

namespace Standalone

theorem whole {t : Text} (h : Standalone t) : Whole '~' t := ⟨h.closed, h.alternative⟩

/-- A closed text stands alone in parentheses, even one that a cut would divide. -/
theorem between {t : Text} (h : Closed t) : Standalone (t.between '(' ')') := by
  have hs : Whole ' ' (t.between '(' ')') := Whole.parenthesised plain_space h
  have ht : Whole '~' (t.between '(' ')') := Whole.parenthesised plain_tilde h
  exact ⟨hs.closed, clauseTexts_eq_singleton_iff.mpr ⟨List.cons_ne_nil _ _, hs.one⟩, ht.one⟩

theorem of_branches {branches : List Text} (h : ∀ b ∈ branches, Standalone b) :
    Standalone (choiceText branches) :=
  between (Closed.intercalate plain_tilde fun b hb => (h b hb).closed)

theorem iterate_between {t : Text} (h : Standalone t) (k : ℕ) :
    Standalone ((Text.between '(' ')')^[k] t) := by
  induction k with
  | zero => exact h
  | succ k ih =>
    rw [Function.iterate_succ_apply']
    exact between ih.closed

end Standalone

theorem matchesText_between {t : Text} (h : Standalone t) (r : Record) :
    r.matchesText (t.between '(' ')') = r.matchesText t := by
  rw [matchesText_of_one_clause (Standalone.between h.closed).clause,
    matchesText_of_one_clause h.clause,
    Node.ofText_wrapped (trim_between_parentheses t) h.alternative]

theorem matchesText_iterate_between {t : Text} (h : Standalone t) (r : Record) (k : ℕ) :
    r.matchesText ((Text.between '(' ')')^[k] t) = r.matchesText t := by
  induction k with
  | zero => rfl
  | succ k ih => rw [Function.iterate_succ_apply', matchesText_between (h.iterate_between k), ih]

/-- Below the limit of nesting, a choice of several texts holds where one of them does. -/
theorem matchesText_choiceText {branches : List Text} (h2 : 2 ≤ branches.length)
    (h : ∀ b ∈ branches, Standalone b)
    (hn : ∀ b ∈ branches, (Node.ofText b 0).nesting ≤ maxNesting - 1) (r : Record) :
    r.matchesText (choiceText branches) = branches.any (r.matchesText ·) := by
  have hread : Node.ofText (choiceText branches) 0 = .anyOf (branches.map (Node.ofText · 1)) :=
    Node.ofText_choiceText h2 (fun b hb => (h b hb).whole) (by decide)
  rw [matchesText_of_one_clause (Standalone.of_branches h).clause, hread]
  apply Node.holds_anyOf_map
  intro b hb
  rw [Node.ofText_one (hn b hb), matchesText_of_one_clause (h b hb).clause]

/-- Parentheses around texts that stand alone, with `~` between them, hold where one of the texts
does; around one text they change nothing, at any number of repetitions. -/
theorem choice_holds_iff :
    (∀ branches : List Text, branches ≠ [] → (∀ b ∈ branches, Standalone b) →
      (2 ≤ branches.length → ∀ b ∈ branches, (Node.ofText b 0).nesting ≤ maxNesting - 1) →
      ∀ r : Record, r.matchesText (choiceText branches) = true ↔
        ∃ b ∈ branches, r.matchesText b = true) ∧
    ∀ (t : Text) (k : ℕ), Standalone t →
      ∀ r : Record, r.matchesText ((Text.between '(' ')')^[k] t) = r.matchesText t := by
  refine ⟨fun branches hne h hn r => ?_, fun t k h r => matchesText_iterate_between h r k⟩
  by_cases h2 : 2 ≤ branches.length
  · rw [matchesText_choiceText h2 h (hn h2), List.any_eq_true]
  · obtain ⟨b, rfl⟩ : ∃ b, branches = [b] := by
      have hl := List.length_pos_iff.mpr hne
      exact List.length_eq_one_iff.mp (by omega)
    rw [choiceText, List.intercalate_singleton, matchesText_between (h b List.mem_cons_self)]
    simp

/-- A choice between a negated choice, a quoted text with a parenthesis, and a restriction, and the
restriction in more parentheses than choices may be nested. -/
theorem choice_holds_three :
    choiceText ["-(x~(y))".toList, "\"( ~ \"".toList, "qty:>5".toList] =
      "(-(x~(y))~\"( ~ \"~qty:>5)".toList ∧
    (∀ b ∈ ["-(x~(y))".toList, "\"( ~ \"".toList, "qty:>5".toList], Standalone b) ∧
    (∀ b ∈ ["-(x~(y))".toList, "\"( ~ \"".toList, "qty:>5".toList],
      (Node.ofText b 0).nesting ≤ maxNesting - 1) ∧
    (∀ r : Record,
      r.matchesText (choiceText ["-(x~(y))".toList, "\"( ~ \"".toList, "qty:>5".toList]) = true ↔
        ∃ b ∈ ["-(x~(y))".toList, "\"( ~ \"".toList, "qty:>5".toList], r.matchesText b = true) ∧
    ∀ r : Record,
      r.matchesText ((Text.between '(' ')')^[40] "qty:>5".toList) = r.matchesText "qty:>5".toList := by
  have hs : ∀ b ∈ ["-(x~(y))".toList, "\"( ~ \"".toList, "qty:>5".toList], Standalone b := by decide
  have hn : ∀ b ∈ ["-(x~(y))".toList, "\"( ~ \"".toList, "qty:>5".toList],
      (Node.ofText b 0).nesting ≤ maxNesting - 1 := by decide +kernel
  exact ⟨by decide, hs, hn, choice_holds_iff.1 _ (by decide) hs fun _ => hn,
    choice_holds_iff.2 "qty:>5".toList 40 (hs _ (by simp))⟩

end Stockroom
