import Stockroom.Proofs.Query.Redundancy

/-! # Blanks around a query

Only the space parts clauses, but every blank is trimmed off a clause. Blanks around a query thus
lengthen its first and its last clause, or make clauses of their own, which hold for every record as
an empty text does. Neither changes a verdict, whether or not the scan is at rest behind the query.
-/
namespace Stockroom
open Character Scan

theorem Scan.isBlank_of_mem_pieces {s : Scan} {w piece : Text} (hw : ∀ c ∈ w, isBlank c = true)
    (hp : piece ∈ s.pieces ' ' w) : ∀ c ∈ piece, isBlank c = true := by
  intro c hc
  have hflat : c ∈ (s.pieces ' ' w).flatten := List.mem_flatten.mpr ⟨piece, hp, hc⟩
  have hmem : c ∈ ' ' :: w := (perm_pieces ' ' s w).subset (List.mem_append_right _ hflat)
  rcases List.mem_cons.mp hmem with rfl | hm
  · exact isBlank_space
  · exact hw c hm

namespace Node

variable {w : Text} (hw : ∀ c ∈ w, isBlank c = true) (t : Text) (depth : Int)
include hw

theorem ofText_append_right : ofText (t ++ w) depth = ofText t depth :=
  ofText_append_blank (nofun : ∀ c ∈ ([] : Text), isBlank c = true) hw t depth

theorem ofText_append_left : ofText (w ++ t) depth = ofText t depth := by
  have h := ofText_append_blank hw (nofun : ∀ c ∈ ([] : Text), isBlank c = true) t depth
  rwa [List.append_nil] at h

theorem holds_ofText_blank (r : Record) : (ofText w depth).holds r = true := by
  have h := ofText_append_left hw [] depth
  rw [List.append_nil] at h
  rw [h]
  exact holds_ofText_nil r depth

end Node

section Verdicts

variable (r : Record) {w : Text} (hw : ∀ c ∈ w, isBlank c = true) (query : Text)

/-- An empty piece is no clause, and would hold if it were one. -/
theorem matchesText_eq_all_pieces :
    r.matchesText query = (rest.pieces ' ' query).all fun t => (Node.ofText t 0).holds r := by
  rw [matchesText_eq_all, clauseTexts, List.all_filter]
  congr 1
  funext t
  cases t with
  | nil => exact (Node.holds_ofText_nil r 0).symm
  | cons c t => rfl

include hw

theorem all_pieces_blank (s : Scan) :
    ((s.pieces ' ' w).all fun t => (Node.ofText t 0).holds r) = true :=
  List.all_eq_true.mpr fun _ hp => Node.holds_ofText_blank (isBlank_of_mem_pieces hw hp) 0 r

/-- Blanks behind a query lengthen its last piece, and any more pieces are blank. -/
theorem matchesText_append_blank : r.matchesText (query ++ w) = r.matchesText query := by
  obtain ⟨init, last, hi⟩ := exists_last_piece ' ' rest query
  obtain ⟨first, more, hf⟩ := List.exists_cons_of_ne_nil (pieces_ne_nil ' ' (rest.run query) w)
  have hall := all_pieces_blank r hw (rest.run query)
  have hfirst : ∀ c ∈ first, isBlank c = true :=
    isBlank_of_mem_pieces hw (by rw [hf]; exact List.mem_cons_self)
  rw [hf, List.all_cons, Bool.and_eq_true] at hall
  rw [matchesText_eq_all_pieces, matchesText_eq_all_pieces, pieces_append plain_space hi hf, hi]
  simp only [List.all_append, List.all_cons, List.all_nil, hall.2, Node.ofText_append_right hfirst]

/-- Blanks before a query lengthen its first piece, and the pieces before that are blank. -/
theorem matchesText_blank_append : r.matchesText (w ++ query) = r.matchesText query := by
  have hrun : rest.run w = rest := by
    refine run_of_plain (fun c hc => ?_) rest
    have hb := hw c hc
    refine ⟨?_, ?_, ?_⟩ <;> rintro rfl <;> exact absurd hb (by decide)
  obtain ⟨init, last, hi⟩ := exists_last_piece ' ' rest w
  obtain ⟨first, more, hf⟩ := List.exists_cons_of_ne_nil (pieces_ne_nil ' ' rest query)
  have hall := all_pieces_blank r hw rest
  have hlast : ∀ c ∈ last, isBlank c = true :=
    isBlank_of_mem_pieces hw (by rw [hi]; exact List.mem_append_right _ List.mem_cons_self)
  rw [hi, List.all_append, Bool.and_eq_true] at hall
  rw [matchesText_eq_all_pieces, matchesText_eq_all_pieces,
    pieces_append plain_space hi (by rw [hrun]; exact hf), hf]
  simp only [List.all_append, List.all_cons, hall.1, Bool.true_and, Node.ofText_append_left hlast]

end Verdicts

theorem matchesText_trim (r : Record) (query : Text) : r.matchesText query.trim = r.matchesText query := by
  obtain ⟨w, w', hw, hw', he⟩ := Text.exists_append_trim query
  conv_rhs => rw [he, matchesText_blank_append r hw, matchesText_append_blank r hw']

/-- A query has the verdicts of its trimmed form, and a blank query keeps every record. -/
theorem surrounding_blanks_ignored :
    (∀ (r : Record) (query : Text), r.matchesText query = r.matchesText query.trim) ∧
    ∀ query : Text, (∀ c ∈ query, isBlank c = true) →
      (∀ items, keepItems query items = items) ∧ (∀ entries, keepEntries query entries = entries) ∧
      ∀ records : List Record, records.filter (·.matchesText query) = records := by
  refine ⟨fun r query => (matchesText_trim r query).symm, fun query h => ?_⟩
  have hall : ∀ r : Record, r.matchesText query = true := by
    intro r
    rw [matchesText_eq_all_pieces]
    exact all_pieces_blank r h rest
  exact ⟨fun items => List.filter_eq_self.mpr fun item _ => hall (.item item),
    fun entries => List.filter_eq_self.mpr fun entry _ => hall (.entry entry),
    fun records => List.filter_eq_self.mpr fun r _ => hall r⟩

/-- A quote left open between blanks of several kinds, and a query of such blanks alone. -/
theorem surrounding_blanks_open_quote :
    Text.trim "\n \"a b\u00A0 \t".toList = "\"a b".toList ∧
    (∀ r : Record, r.matchesText "\n \"a b\u00A0 \t".toList = r.matchesText "\"a b".toList) ∧
    (∀ c ∈ "\t \n\u00A0 \u3000".toList, isBlank c = true) ∧
    ∀ items, keepItems "\t \n\u00A0 \u3000".toList items = items := by
  have ht : Text.trim "\n \"a b\u00A0 \t".toList = "\"a b".toList := by decide
  have hb : ∀ c ∈ "\t \n\u00A0 \u3000".toList, isBlank c = true := List.all_eq_true.mp (by decide)
  refine ⟨ht, fun r => ?_, hb, (surrounding_blanks_ignored.2 _ hb).1⟩
  rw [surrounding_blanks_ignored.1 r, ht]

end Stockroom
