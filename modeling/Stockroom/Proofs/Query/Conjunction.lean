import Stockroom.Catalog.Basic
import Stockroom.Proofs.Scan.Closed

/-! # Clauses of joined queries

Two queries joined by a space have the clauses of both exactly if the scan of the first ends at rest:
elsewhere the space belongs to the unfinished clause and makes it longer. So such a query narrows
what the first part alone would keep.
-/
namespace Stockroom
open Scan

theorem clauseTexts_append {a : Text} (ha : rest.run a = rest) (b : Text) :
    clauseTexts (a ++ ' ' :: b) = clauseTexts a ++ clauseTexts b := by
  simp only [clauseTexts, pieces_append_separator plain_space ha, List.filter_append]

/-- Behind an unfinished clause the space is no cut: that clause goes on. -/
theorem clauseTexts_append_ne {a : Text} (ha : rest.run a ≠ rest) (b : Text) :
    clauseTexts (a ++ ' ' :: b) ≠ clauseTexts a ++ clauseTexts b := by
  obtain ⟨init, last, hi, _, hl⟩ := exists_pieces_eq_concat plain_space a
  have hlast : last ≠ [] := by
    rintro rfl
    exact ha hl.symm
  have hcut : ¬(' ' = ' ' ∧ rest.run a = rest) := fun h => ha h.2
  obtain ⟨first, more, hf⟩ :
      ∃ first more, (rest.run a).pieces ' ' (' ' :: b) = (' ' :: first) :: more := by
    rw [pieces_keep hcut, step_of_plain plain_space]
    cases hb : (rest.run a).pieces ' ' b with
    | nil => exact absurd hb (pieces_ne_nil ' ' _ b)
    | cons p ps => exact ⟨p, ps, rfl⟩
  intro h
  rw [clauseTexts, clauseTexts, pieces_append plain_space hi hf, hi] at h
  simp only [List.filter_append, List.append_assoc, List.append_cancel_left_eq] at h
  rw [List.filter_cons_of_pos (by simp [hlast]), List.filter_cons_of_pos (by simp [hlast])] at h
  have he : last ++ ' ' :: first = last := (List.cons.inj h).1
  exact absurd (List.append_right_eq_self.mp he) (List.cons_ne_nil ' ' first)

theorem length_flatten_clauseTexts_le (t : Text) : (clauseTexts t).flatten.length ≤ t.length := by
  rw [clauseTexts, List.flatten_filter_not_isEmpty]
  exact length_flatten_pieces_le ' ' rest t

/-- A query is its own only clause if it is not empty and no space in it cuts. -/
theorem clauseTexts_eq_singleton_iff {t : Text} :
    clauseTexts t = [t] ↔ t ≠ [] ∧ rest.pieces ' ' t = [t] := by
  constructor
  · intro h
    have hne : t ≠ [] := by
      rintro rfl
      cases h
    refine ⟨hne, (pieces_eq_singleton_iff plain_space).mpr ?_⟩
    rintro u v rfl hu
    have hl := congrArg (fun ts => ts.flatten.length) (clauseTexts_append hu v)
    have hu' := length_flatten_clauseTexts_le u
    have hv' := length_flatten_clauseTexts_le v
    simp only [h, List.flatten_append, List.length_append, List.flatten_singleton,
      List.length_cons] at hl
    omega
  · rintro ⟨hne, ht⟩
    rw [clauseTexts, ht]
    simp [hne]

/-- Single clauses, all but the last at rest behind them, are the clauses of their join. -/
theorem clauseTexts_intercalate {ts : List Text} (hw : ∀ t ∈ ts, clauseTexts t = [t])
    (hr : ∀ t ∈ ts.dropLast, rest.run t = rest) : clauseTexts ([' '].intercalate ts) = ts := by
  by_cases hne : ts = []
  · rw [hne]
    rfl
  · have hone : ∀ t ∈ ts, t ≠ [] ∧ rest.pieces ' ' t = [t] := fun t ht =>
      clauseTexts_eq_singleton_iff.mp (hw t ht)
    rw [clauseTexts, pieces_intercalate plain_space hne (fun t ht => (hone t ht).2) hr,
      List.filter_eq_self]
    intro t ht
    simp [(hone t ht).1]

theorem matchesText_eq_all (r : Record) (query : Text) :
    r.matchesText query = (clauseTexts query).all fun t => (Node.ofText t 0).holds r := by
  simp only [Record.matchesText, Query.holds, Query.ofText, List.all_map]
  rfl

theorem matchesText_of_one_clause {t : Text} (h : clauseTexts t = [t]) (r : Record) :
    r.matchesText t = (Node.ofText t 0).holds r := by
  rw [matchesText_eq_all, h, List.all_cons, List.all_nil, Bool.and_true]

theorem matchesText_append {a : Text} (ha : rest.run a = rest) (b : Text) (r : Record) :
    r.matchesText (a ++ ' ' :: b) = (r.matchesText a && r.matchesText b) := by
  simp only [matchesText_eq_all, clauseTexts_append ha, List.all_append]

/-- A query behind another one keeps only what that one has kept. -/
theorem filter_matchesText_append {α : Type} (view : α → Record) {a : Text} (ha : rest.run a = rest)
    (b : Text) (records : List α) :
    records.filter (fun x => (view x).matchesText (a ++ ' ' :: b)) =
      (records.filter fun x => (view x).matchesText a).filter fun x => (view x).matchesText b := by
  rw [List.filter_filter]
  apply List.filter_congr
  intro x _
  rw [matchesText_append ha, Bool.and_comm]

theorem keepItems_append {a : Text} (ha : rest.run a = rest) (b : Text) (items : List Item) :
    keepItems (a ++ ' ' :: b) items = keepItems b (keepItems a items) :=
  filter_matchesText_append Record.item ha b items

theorem keepEntries_append {a : Text} (ha : rest.run a = rest) (b : Text) (entries : List Entry) :
    keepEntries (a ++ ' ' :: b) entries = keepEntries b (keepEntries a entries) :=
  filter_matchesText_append Record.entry ha b entries

/-- A space between two queries joins their clauses exactly if the first ends at rest. Then the
joined query holds where both hold, and behind the first one the second can only narrow. -/
theorem conjunction_iff_at_rest :
    (∀ a b : Text, clauseTexts (a ++ ' ' :: b) = clauseTexts a ++ clauseTexts b ↔ rest.run a = rest) ∧
    ∀ a : Text, rest.run a = rest → ∀ b : Text,
      (∀ r : Record, r.matchesText (a ++ ' ' :: b) = (r.matchesText a && r.matchesText b)) ∧
      (∀ items, (keepItems (a ++ ' ' :: b) items).Sublist (keepItems a items)) ∧
      (∀ entries, (keepEntries (a ++ ' ' :: b) entries).Sublist (keepEntries a entries)) ∧
      ∀ records : List Record, (records.filter (·.matchesText (a ++ ' ' :: b))).Sublist
        (records.filter (·.matchesText a)) := by
  refine ⟨fun a b => ⟨?_, fun ha => clauseTexts_append ha b⟩, fun a ha b => ⟨?_, ?_, ?_, ?_⟩⟩
  · intro h
    by_contra ha
    exact clauseTexts_append_ne ha b h
  · exact matchesText_append ha b
  · intro items
    rw [keepItems_append ha]
    exact List.filter_sublist
  · intro entries
    rw [keepEntries_append ha]
    exact List.filter_sublist
  · intro records
    have hf := filter_matchesText_append (fun r : Record => r) ha b records
    rw [hf]
    exact List.filter_sublist

/-- The law at a query with a quoted and a stray parenthesis, before a query left open. -/
theorem conjunction_stray_parenthesis :
    rest.run "(p~q) \"( \" )".toList = rest ∧
    clauseTexts ("(p~q) \"( \" )".toList ++ ' ' :: "(x".toList) =
      clauseTexts "(p~q) \"( \" )".toList ++ clauseTexts "(x".toList ∧
    ∀ r : Record, r.matchesText ("(p~q) \"( \" )".toList ++ ' ' :: "(x".toList) =
      (r.matchesText "(p~q) \"( \" )".toList && r.matchesText "(x".toList) := by
  have h : rest.run "(p~q) \"( \" )".toList = rest := by decide
  exact ⟨h, (conjunction_iff_at_rest.1 _ _).mpr h, (conjunction_iff_at_rest.2 _ h _).1⟩

end Stockroom
