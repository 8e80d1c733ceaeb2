import Stockroom.Proofs.Query.Conjunction

/-! # Clauses of a query

The clause texts of a query keep all of it but the spaces that cut. Each is its own only clause, and
all but the last are at rest behind them. Those two facts say which lists of texts are the clauses of
a query: joined by spaces, every such list is read back.
-/
namespace Stockroom
open Scan

variable {query t : Text}

theorem mem_clauseTexts_iff :
    t ∈ clauseTexts query ↔ t ≠ [] ∧ t ∈ rest.pieces ' ' query := by
  simp [clauseTexts, and_comm]

theorem clauseTexts_of_mem (h : t ∈ clauseTexts query) : clauseTexts t = [t] := by
  obtain ⟨hne, hp⟩ := mem_clauseTexts_iff.mp h
  exact clauseTexts_eq_singleton_iff.mpr ⟨hne, pieces_of_mem_pieces plain_space hp⟩

/-- Dropping the empty pieces loses no character. -/
theorem flatten_clauseTexts (query : Text) : (clauseTexts query).flatten = rest.uncut ' ' query := by
  rw [clauseTexts, List.flatten_filter_not_isEmpty, flatten_pieces plain_space]

theorem run_of_mem_dropLast (h : t ∈ (clauseTexts query).dropLast) : rest.run t = rest := by
  obtain ⟨init, last, hi, hr, _⟩ := exists_pieces_eq_concat plain_space query
  have hsub : (clauseTexts query).dropLast.Sublist init := by
    rw [clauseTexts, hi, List.filter_append]
    by_cases hlast : last = []
    · have hnone : ([last].filter fun piece => !piece.isEmpty) = [] := by simp [hlast]
      rw [hnone, List.append_nil]
      exact (List.dropLast_sublist _).trans List.filter_sublist
    · have hone : ([last].filter fun piece => !piece.isEmpty) = [last] := by simp [hlast]
      rw [hone, List.dropLast_concat]
      exact List.filter_sublist
  exact hr t (hsub.subset h)

/-- The clauses of every query are not empty, hold all of it but the spaces at rest, are single
clauses, are at rest behind all but the last, and are the clauses of their join. Every list of
single clauses that are at rest behind all but the last is the list of clauses of its join. -/
theorem clauses_canonical :
    (∀ query : Text,
      (∀ t ∈ clauseTexts query, t ≠ []) ∧
      (clauseTexts query).flatten = rest.uncut ' ' query ∧
      (∀ t ∈ clauseTexts query, clauseTexts t = [t]) ∧
      (∀ t ∈ (clauseTexts query).dropLast, rest.run t = rest) ∧
      clauseTexts ([' '].intercalate (clauseTexts query)) = clauseTexts query) ∧
    ∀ ts : List Text, (∀ t ∈ ts, clauseTexts t = [t]) → (∀ t ∈ ts.dropLast, rest.run t = rest) →
      clauseTexts ([' '].intercalate ts) = ts := by
  refine ⟨fun query => ?_, fun ts hw hr => clauseTexts_intercalate hw hr⟩
  have hsingle : ∀ t ∈ clauseTexts query, clauseTexts t = [t] := fun t => clauseTexts_of_mem
  have hrest : ∀ t ∈ (clauseTexts query).dropLast, rest.run t = rest := fun t => run_of_mem_dropLast
  exact ⟨fun t h => (mem_clauseTexts_iff.mp h).1, flatten_clauseTexts query, hsingle, hrest,
    clauseTexts_intercalate hsingle hrest⟩

/-- Clauses with a stray parenthesis, a quoted parenthesis and a group left open, read off their
join. -/
theorem clauses_canonical_open_group :
    (∀ t ∈ ["a)".toList, "-\"( \"".toList, "(x y".toList], clauseTexts t = [t]) ∧
    (∀ t ∈ ["a)".toList, "-\"( \"".toList, "(x y".toList].dropLast, rest.run t = rest) ∧
    clauseTexts ([' '].intercalate ["a)".toList, "-\"( \"".toList, "(x y".toList]) =
      ["a)".toList, "-\"( \"".toList, "(x y".toList] := by
  have hw : ∀ t ∈ ["a)".toList, "-\"( \"".toList, "(x y".toList], clauseTexts t = [t] := by decide
  have hr : ∀ t ∈ ["a)".toList, "-\"( \"".toList, "(x y".toList].dropLast, rest.run t = rest := by
    decide
  exact ⟨hw, hr, clauses_canonical.2 _ hw hr⟩

end Stockroom
