import Stockroom.Catalog.Order
import Mathlib.Order.Lattice
import Mathlib.Data.List.Basic

/-! # Rankings

A ranking of records by a key holds the same records, puts no record behind one with a worse key,
and leaves records with equal keys in the order they had, in either direction. There is exactly one
ranking of a list. Leaving records out of it gives the ranking of the records that are left, so it
makes no difference whether records are left out before the ranking or after it.
-/
namespace Stockroom

namespace Direction

variable {κ : Type} [LinearOrder κ]

def Before : Direction → κ → κ → Prop
  | ascending, k, l => k < l
  | descending, k, l => l < k

theorem not_before_self (d : Direction) (k : κ) : ¬d.Before k k := by
  cases d with
  | ascending => exact lt_irrefl k
  | descending => exact lt_irrefl k

theorem not_before_trans {d : Direction} {k l m : κ} (h : ¬d.Before l k) (h' : ¬d.Before m l) :
    ¬d.Before m k := by
  cases d with
  | ascending => exact not_lt.mpr (le_trans (not_lt.mp h) (not_lt.mp h'))
  | descending => exact not_lt.mpr (le_trans (not_lt.mp h') (not_lt.mp h))

theorem not_before_total (d : Direction) (k l : κ) : ¬d.Before l k ∨ ¬d.Before k l := by
  cases d with
  | ascending => exact (le_total k l).imp not_lt.mpr not_lt.mpr
  | descending => exact (le_total l k).imp not_lt.mpr not_lt.mpr

theorem eq_of_not_before {d : Direction} {k l : κ} (h : ¬d.Before k l) (h' : ¬d.Before l k) :
    k = l := by
  cases d with
  | ascending => exact le_antisymm (not_lt.mp h') (not_lt.mp h)
  | descending => exact le_antisymm (not_lt.mp h) (not_lt.mp h')

end Direction

variable {α κ : Type} [LinearOrder κ]

structure Ranked (key : α → κ) (d : Direction) (records ranking : List α) : Prop where
  /-- No record is lost, doubled or made up. -/
  perm : ranking.Perm records
  /-- No record stands behind one that its key comes before. -/
  ordered : ranking.Pairwise fun a b => ¬d.Before (key b) (key a)
  /-- Records with one key stand in the order they had. -/
  stable : ∀ k, (ranking.filter fun x => key x = k) = records.filter fun x => key x = k

namespace Ranked

variable {key : α → κ} {d : Direction} {xs ys zs : List α}

/-- Ordered lists with the same records at each key are the same: their first records have the same
key, so both are the first record at that key. -/
theorem eq_of_filter_eq (hy : ys.Pairwise fun a b => ¬d.Before (key b) (key a))
    (hz : zs.Pairwise fun a b => ¬d.Before (key b) (key a))
    (h : ∀ k, (ys.filter fun x => key x = k) = zs.filter fun x => key x = k) : ys = zs := by
  have hmem : ∀ x, x ∈ ys ↔ x ∈ zs := by
    intro x
    have hx := congrArg (x ∈ ·) (h (key x))
    simpa using hx
  induction ys generalizing zs with
  | nil => exact (List.eq_nil_iff_forall_not_mem.mpr fun x hx => by simpa using (hmem x).mpr hx).symm
  | cons y ys ih =>
    cases zs with
    | nil => exact absurd ((hmem y).mp List.mem_cons_self) List.not_mem_nil
    | cons z zs =>
      rw [List.pairwise_cons] at hy hz
      have hyz : ¬d.Before (key y) (key z) := by
        rcases List.mem_cons.mp ((hmem y).mp List.mem_cons_self) with rfl | hm
        · exact d.not_before_self _
        · exact hz.1 y hm
      have hzy : ¬d.Before (key z) (key y) := by
        rcases List.mem_cons.mp ((hmem z).mpr List.mem_cons_self) with rfl | hm
        · exact d.not_before_self _
        · exact hy.1 z hm
      have hk : key y = key z := Direction.eq_of_not_before hyz hzy
      have hfirst := h (key y)
      rw [List.filter_cons_of_pos (by simp), List.filter_cons_of_pos (by simp [hk])] at hfirst
      obtain rfl : y = z := (List.cons.inj hfirst).1
      have htail : ∀ k, (ys.filter fun x => key x = k) = zs.filter fun x => key x = k := by
        intro k
        have hf := h k
        by_cases hy' : key y = k
        · rw [List.filter_cons_of_pos (by simp [hy']), List.filter_cons_of_pos (by simp [hy'])] at hf
          exact (List.cons.inj hf).2
        · rwa [List.filter_cons_of_neg (by simp [hy']), List.filter_cons_of_neg (by simp [hy'])] at hf
      rw [ih hy.2 hz.2 htail fun x => by simpa using congrArg (x ∈ ·) (htail (key x))]

/-- There is only one ranking. -/
theorem unique (h : Ranked key d xs ys) (h' : Ranked key d xs zs) : ys = zs :=
  eq_of_filter_eq h.ordered h'.ordered fun k => (h.stable k).trans (h'.stable k).symm

/-- Leaving records out of a ranking ranks what is left. -/
theorem filter (h : Ranked key d xs ys) (p : α → Bool) :
    Ranked key d (xs.filter p) (ys.filter p) where
  perm := h.perm.filter p
  ordered := h.ordered.sublist List.filter_sublist
  stable k := by
    rw [List.filter_comm, h.stable k, List.filter_comm]

variable {a b : α}

/-- Two records with one key stand in the ranking in the order they had. -/
theorem sublist_iff_of_key_eq (h : Ranked key d xs ys) (hk : key a = key b) :
    [a, b].Sublist ys ↔ [a, b].Sublist xs := by
  have hkept (zs : List α) :
      [a, b].Sublist zs ↔ [a, b].Sublist (zs.filter fun x => key x = key b) := by
    constructor
    · intro hab
      simpa [hk] using hab.filter fun x => decide (key x = key b)
    · exact fun hab => hab.trans List.filter_sublist
  rw [hkept, h.stable, ← hkept]

theorem sublist_of_key_eq (h : Ranked key d xs ys) (hab : [a, b].Sublist ys)
    (hk : key a = key b) : [a, b].Sublist xs :=
  (h.sublist_iff_of_key_eq hk).mp hab

/-- A record stands in front of those that its key comes before. -/
theorem sublist_of_before (h : Ranked key d xs ys) (ha : a ∈ xs) (hb : b ∈ xs)
    (hab : d.Before (key a) (key b)) : [a, b].Sublist ys := by
  obtain ⟨front, back, rfl⟩ := List.append_of_mem (h.perm.mem_iff.mpr ha)
  rcases List.mem_append.mp (h.perm.mem_iff.mpr hb) with hb | hb
  · have hba := (List.pairwise_append.mp h.ordered).2.2 b hb a List.mem_cons_self
    exact absurd hab hba
  · rcases List.mem_cons.mp hb with rfl | hb
    · exact absurd hab (d.not_before_self _)
    · have hback : [a, b].Sublist (a :: back) := (List.singleton_sublist.mpr hb).cons_cons a
      exact hback.trans (List.sublist_append_right front (a :: back))

/-- What holds of every two records of a ranking, in their order there: it holds of those whose keys
stand in that order, and of those with one key that stood in that order before. -/
theorem pairwise_iff (h : Ranked key d xs ys) {r : α → α → Prop} :
    ys.Pairwise r ↔ (∀ a ∈ xs, ∀ b ∈ xs, d.Before (key a) (key b) → r a b) ∧
      xs.Pairwise fun a b => key a = key b → r a b := by
  simp only [List.pairwise_iff_forall_sublist]
  constructor
  · intro hr
    constructor
    · intro a ha b hb hab
      exact hr (h.sublist_of_before ha hb hab)
    · intro a b hab hk
      exact hr ((h.sublist_iff_of_key_eq hk).mpr hab)
  · rintro ⟨hbefore, htie⟩ a b hab
    have hmem (x : α) (hx : x ∈ [a, b]) : x ∈ xs := h.perm.subset (hab.subset hx)
    by_cases hk : d.Before (key a) (key b)
    · exact hbefore a (hmem a (by simp)) b (hmem b (by simp)) hk
    · have hle := List.pairwise_iff_forall_sublist.mp h.ordered hab
      have heq := Direction.eq_of_not_before hk hle
      exact htie ((h.sublist_iff_of_key_eq heq).mp hab) heq

theorem self (h : Ranked key d xs ys) : Ranked key d ys ys where
  perm := .refl ys
  ordered := h.ordered
  stable _ := rfl

/-- Read backwards, a ranking ranks the reversed records in the other direction. -/
theorem reverse (h : Ranked key .ascending xs ys) :
    Ranked key .descending xs.reverse ys.reverse where
  perm := (List.reverse_perm ys).trans (h.perm.trans (List.reverse_perm xs).symm)
  ordered := List.pairwise_reverse.mpr h.ordered
  stable k := by rw [List.filter_reverse, List.filter_reverse, h.stable k]

section Sorting

variable {allows : α → α → Bool} (h : ∀ a b, allows a b = true ↔ ¬d.Before (key b) (key a))
include h

theorem allows_trans (a b c : α) (hab : allows a b) (hbc : allows b c) : allows a c :=
  (h a c).mpr (Direction.not_before_trans ((h a b).mp hab) ((h b c).mp hbc))

theorem allows_total (a b : α) : allows a b || allows b a := by
  rw [Bool.or_eq_true, h, h]
  exact d.not_before_total (key a) (key b)

/-- A sort by a comparison that allows what the keys allow gives the ranking. -/
theorem mergeSort (xs : List α) : Ranked key d xs (xs.mergeSort allows) where
  perm := List.mergeSort_perm xs allows
  ordered := by
    have hs := List.pairwise_mergeSort (allows_trans h) (allows_total h) xs
    exact hs.imp fun {a b} hab => (h a b).mp hab
  stable k := by
    have hclass : (xs.filter fun x => key x = k).Pairwise (allows · ·) := by
      refine List.pairwise_of_forall_mem_list fun a ha b hb => (h a b).mpr ?_
      have hka : key a = k := by simpa using (List.mem_filter.mp ha).2
      have hkb : key b = k := by simpa using (List.mem_filter.mp hb).2
      rw [hka, hkb]
      exact d.not_before_self k
    have hsub := List.sublist_mergeSort (allows_trans h) (allows_total h) hclass List.filter_sublist
    have hkept := hsub.filter fun x => decide (key x = k)
    rw [List.filter_filter] at hkept
    simp only [Bool.and_self] at hkept
    have hlen := ((List.mergeSort_perm xs allows).filter fun x => decide (key x = k)).length_eq
    exact (hkept.eq_of_length hlen.symm).symm

end Sorting

end Ranked

end Stockroom
