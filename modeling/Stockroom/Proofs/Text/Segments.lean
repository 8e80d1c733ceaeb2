import Stockroom.Text.Pattern
import Stockroom.Proofs.Text.Cutting

/-! # Segments in their order

A pattern with asterisks is found in a text that consists of its segments in their order and of gaps,
one in front of each segment and one behind the last. The search takes every segment at its leftmost
place and never goes back. It misses nothing: the leftmost place leaves the longest rest, and a text
that holds the later segments holds them with anything in front of it.
-/
namespace Stockroom

namespace Text

variable {needle t tail : Text}

theorem eq_of_afterFirst? (h : afterFirst? needle t = some tail) :
    ∃ gap, t = gap ++ (needle ++ tail) := by
  induction t with
  | nil =>
    have ht : [] = needle ++ tail := afterLead?_eq_some.mp h
    exact ⟨[], ht⟩
  | cons c t ih =>
    rw [afterFirst?] at h
    split at h
    · next found hlead =>
      cases h
      have ht : c :: t = needle ++ tail := afterLead?_eq_some.mp hlead
      exact ⟨[], ht⟩
    · obtain ⟨gap, hgap⟩ := ih h
      exact ⟨c :: gap, by rw [hgap, List.cons_append]⟩

/-- The leftmost occurrence leaves at least what any other leaves. -/
theorem suffix_afterFirst? (h : ∃ gap, t = gap ++ (needle ++ tail)) :
    ∃ longest, afterFirst? needle t = some longest ∧ tail <:+ longest := by
  obtain ⟨gap, h⟩ := h
  induction t generalizing gap with
  | nil =>
    obtain ⟨rfl, hn⟩ := List.append_eq_nil_iff.mp h.symm
    obtain ⟨rfl, rfl⟩ := List.append_eq_nil_iff.mp hn
    exact ⟨[], rfl, List.suffix_refl []⟩
  | cons c t ih =>
    rw [afterFirst?]
    cases hlead : afterLead? needle (c :: t) with
    | some longest =>
      have hl : c :: t = needle ++ longest := afterLead?_eq_some.mp hlead
      have ht : tail <:+ c :: t := ⟨gap ++ needle, by rw [h, List.append_assoc]⟩
      have hlength : tail.length ≤ longest.length := by
        have hsame := congrArg List.length (hl.symm.trans h)
        simp only [List.length_append] at hsame
        omega
      exact ⟨longest, rfl, List.suffix_of_suffix_length_le ht ⟨needle, hl.symm⟩ hlength⟩
    | none =>
      cases gap with
      | nil =>
        have hsome : afterLead? needle (c :: t) = some tail := afterLead?_eq_some.mpr h
        rw [hsome] at hlead
        cases hlead
      | cons d gap => exact ih gap (List.cons.inj h).2

theorem occurs_iff : occurs needle t = true ↔ ∃ gap tail, t = gap ++ (needle ++ tail) := by
  rw [occurs, Option.isSome_iff_exists]
  constructor
  · rintro ⟨tail, h⟩
    obtain ⟨gap, hgap⟩ := eq_of_afterFirst? h
    exact ⟨gap, tail, hgap⟩
  · rintro ⟨gap, tail, h⟩
    obtain ⟨longest, hlongest, _⟩ := suffix_afterFirst? ⟨gap, h⟩
    exact ⟨longest, hlongest⟩

/-- A text consists of the segments in their order and of gaps, one in front of each segment and one
behind the last. -/
def HoldsInOrder (segments : List Text) (t : Text) : Prop :=
  ∃ gaps : List Text, ∃ last : Text, gaps.length = segments.length ∧
    t = (gaps.zipWith (· ++ ·) segments).flatten ++ last

theorem holdsInOrder_nil (t : Text) : HoldsInOrder [] t := ⟨[], t, rfl, rfl⟩

theorem holdsInOrder_cons_iff {segment : Text} {rest : List Text} :
    HoldsInOrder (segment :: rest) t ↔
      ∃ tail, (∃ gap, t = gap ++ (segment ++ tail)) ∧ HoldsInOrder rest tail := by
  constructor
  · rintro ⟨gaps, last, hlength, ht⟩
    obtain ⟨gap, gaps, rfl⟩ := List.exists_cons_of_length_eq_add_one hlength
    refine ⟨_, ⟨gap, ?_⟩, gaps, last, Nat.succ.inj hlength, rfl⟩
    simpa using ht
  · rintro ⟨_, ⟨gap, ht⟩, gaps, last, hlength, rfl⟩
    exact ⟨gap :: gaps, last, congrArg (· + 1) hlength, by simpa using ht⟩

/-- The first gap takes in whatever is put in front. -/
theorem HoldsInOrder.of_suffix {segments : List Text} (h : HoldsInOrder segments tail)
    (ht : tail <:+ t) : HoldsInOrder segments t := by
  cases segments with
  | nil => exact holdsInOrder_nil t
  | cons segment rest =>
    obtain ⟨front, rfl⟩ := ht
    obtain ⟨tail, ⟨gap, rfl⟩, hrest⟩ := holdsInOrder_cons_iff.mp h
    exact holdsInOrder_cons_iff.mpr ⟨tail, ⟨front ++ gap, by rw [List.append_assoc]⟩, hrest⟩

/-- Segments joined by separators stand in their order, with the separators in the gaps. -/
theorem holdsInOrder_intercalate (separator : Char) {segments : List Text} (h : segments ≠ [])
    (tail : Text) : HoldsInOrder segments ([separator].intercalate segments ++ tail) := by
  induction segments with
  | nil => exact absurd rfl h
  | cons segment rest ih =>
    cases rest with
    | nil => exact holdsInOrder_cons_iff.mpr ⟨tail, ⟨[], by simp⟩, holdsInOrder_nil tail⟩
    | cons next rest =>
      have hnext := ih (List.cons_ne_nil next rest)
      refine holdsInOrder_cons_iff.mpr ⟨_, ⟨[], ?_⟩, hnext.of_suffix ⟨[separator], rfl⟩⟩
      rw [List.intercalate_cons_cons]
      simp

end Text

namespace Pattern
open Text

/-- Greedy search decides whether the segments stand in their order. -/
theorem segmentsOccur_iff {segments : List Text} {t : Text} :
    segmentsOccur segments t = true ↔ HoldsInOrder segments t := by
  induction segments generalizing t with
  | nil => simp [segmentsOccur, holdsInOrder_nil]
  | cons segment rest ih =>
    rw [holdsInOrder_cons_iff, segmentsOccur]
    constructor
    · intro h
      split at h
      · next tail hfirst => exact ⟨tail, eq_of_afterFirst? hfirst, ih.mp h⟩
      · cases h
    · rintro ⟨tail, hgap, hrest⟩
      obtain ⟨longest, hlongest, htail⟩ := suffix_afterFirst? hgap
      rw [hlongest]
      exact ih.mpr (hrest.of_suffix htail)

theorem foundIn_literal_iff {body t : Text} :
    (mk body true).foundIn t = true ↔ ∃ gap tail, t.folded = gap ++ (body.foldedPattern ++ tail) :=
  occurs_iff

/-- Without an asterisk there is one segment. -/
theorem foundIn_wildcard_iff {body t : Text} :
    (mk body false).foundIn t = true ↔ HoldsInOrder (body.foldedPattern.cut '*') t.folded := by
  by_cases h : '*' ∈ body.foldedPattern
  · have hc : body.foldedPattern.contains '*' = true := List.contains_iff_mem.mpr h
    simp only [foundIn, hc, Bool.not_false, Bool.and_self, if_true]
    exact segmentsOccur_iff
  · have hc : body.foldedPattern.contains '*' = false := by
      rw [← Bool.not_eq_true, List.contains_iff_mem]
      exact h
    simp only [foundIn, hc, Bool.and_false, Bool.false_eq_true, if_false]
    rw [occurs_iff, cut_of_not_mem h, holdsInOrder_cons_iff, exists_comm]
    simp only [holdsInOrder_nil, and_true]

theorem foundIn_of_literal {body t : Text} (h : (mk body true).foundIn t = true) :
    (mk body false).foundIn t = true := by
  obtain ⟨gap, tail, ht⟩ := foundIn_literal_iff.mp h
  have hcut := holdsInOrder_intercalate '*' (cut_ne_nil '*' body.foldedPattern) tail
  rw [intercalate_cut] at hcut
  exact foundIn_wildcard_iff.mpr (hcut.of_suffix ⟨gap, ht.symm⟩)

/-- A pattern that is not literal is found in a text exactly if the folded text consists of the
segments between the asterisks, in their order, and of gaps before, between and behind them. Where a
literal pattern is found, the same pattern with its asterisks set free is found as well. -/
theorem search_never_misses (body t : Text) :
    ['*'].intercalate (body.foldedPattern.cut '*') = body.foldedPattern ∧
    (∀ segment ∈ body.foldedPattern.cut '*', '*' ∉ segment) ∧
    ((mk body false).foundIn t = true ↔ HoldsInOrder (body.foldedPattern.cut '*') t.folded) ∧
    ((mk body true).foundIn t = true → (mk body false).foundIn t = true) :=
  ⟨intercalate_cut '*' _, fun _ h => not_mem_of_mem_cut h, foundIn_wildcard_iff, foundIn_of_literal⟩

/-- The law at a pattern whose segments overlap, in a text with the asterisk itself. -/
theorem search_never_misses_overlapping :
    (mk "aba*ba".toList true).foundIn "xABA*BA".toList = true ∧
    (mk "aba*ba".toList false).foundIn "xABA*BA".toList = true := by
  have h : (mk "aba*ba".toList true).foundIn "xABA*BA".toList = true := by decide +kernel
  exact ⟨h, (search_never_misses _ _).2.2.2 h⟩

example : (mk "aba*ba".toList false).foundIn "ababa".toList = true ∧
    (mk "aba*ba".toList false).foundIn "abab".toList = false := by decide +kernel

end Pattern

end Stockroom
