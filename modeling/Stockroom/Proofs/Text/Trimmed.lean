import Stockroom.Text.Basic
import Mathlib.Data.List.DropRight

/-! # Trimmed texts

Trimming leaves alone exactly the texts that neither begin nor end with a blank, and the trimmed
form is such a text.
-/
namespace Stockroom.Text
open Character

theorem trimStart_eq_self_iff {t : Text} :
    trimStart t = t ↔ ∀ c ∈ t.head?, isBlank c = false := by
  cases t with
  | nil => simp [trimStart]
  | cons c t =>
    cases hc : isBlank c with
    | false => simp [trimStart, hc]
    | true =>
      have hl : (t.dropWhile isBlank).length ≤ t.length := (List.dropWhile_suffix isBlank).length_le
      have hn : trimStart (c :: t) ≠ c :: t := by
        intro h
        have he := congrArg List.length h
        simp only [trimStart, List.dropWhile_cons_of_pos hc, List.length_cons] at he
        omega
      simp [hn, hc]

theorem trimEnd_eq_self_iff {t : Text} :
    trimEnd t = t ↔ ∀ c ∈ t.getLast?, isBlank c = false := by
  have hr : trimEnd t = t ↔ trimStart t.reverse = t.reverse := List.reverse_eq_iff
  rw [hr, trimStart_eq_self_iff, List.head?_reverse]

theorem trim_eq_self {t : Text} (hs : trimStart t = t) (he : trimEnd t = t) : trim t = t := by
  rw [trim, hs, he]

theorem trimStart_trimStart (t : Text) : trimStart (trimStart t) = trimStart t :=
  List.dropWhile_idempotent isBlank t

theorem trimEnd_trimEnd (t : Text) : trimEnd (trimEnd t) = trimEnd t :=
  List.rdropWhile_idempotent isBlank t

theorem trimEnd_prefix (t : Text) : trimEnd t <+: t := List.rdropWhile_prefix isBlank t

theorem trim_sublist (t : Text) : (trim t).Sublist t := by
  have hend := trimEnd_prefix (trimStart t)
  exact hend.sublist.trans (List.dropWhile_sublist isBlank)

/-- Trimming the end keeps a beginning that needs no trimming. -/
theorem trimStart_trimEnd {t : Text} (h : trimStart t = t) : trimStart (trimEnd t) = trimEnd t := by
  rw [trimStart_eq_self_iff] at h ⊢
  intro c hc
  obtain ⟨v, hv⟩ := trimEnd_prefix t
  apply h c
  rw [← hv]
  exact List.mem_head?_append_of_mem_head? hc

@[simp] theorem trim_trim (t : Text) : trim (trim t) = trim t :=
  trim_eq_self (trimStart_trimEnd (trimStart_trimStart t)) (trimEnd_trimEnd (trimStart t))

theorem trimStart_eq_self_of_trim {t : Text} (h : trim t = t) : trimStart t = t := by
  rw [← h]
  exact trimStart_trimEnd (trimStart_trimStart t)

theorem trimEnd_eq_self_of_trim {t : Text} (h : trim t = t) : trimEnd t = t := by
  rw [← h]
  exact trimEnd_trimEnd (trimStart t)

theorem trimStart_append {t : Text} (ht : t ≠ []) (h : trimStart t = t) (u : Text) :
    trimStart (t ++ u) = t ++ u := by
  rw [trimStart_eq_self_iff] at h ⊢
  rw [List.head?_append_of_ne_nil t ht]
  exact h

theorem trimEnd_append {u : Text} (hu : u ≠ []) (h : trimEnd u = u) (t : Text) :
    trimEnd (t ++ u) = t ++ u := by
  rw [trimEnd_eq_self_iff] at h ⊢
  rw [List.getLast?_append_of_ne_nil t hu]
  exact h

theorem trimStart_eq_nil {t : Text} (h : ∀ c ∈ t, isBlank c = true) : trimStart t = [] :=
  List.dropWhile_eq_nil_iff.mpr h

theorem trimEnd_append_blank {w : Text} (h : ∀ c ∈ w, isBlank c = true) (t : Text) :
    trimEnd (t ++ w) = trimEnd t := by
  have hr : ∀ c ∈ w.reverse, isBlank c = true := fun c hc => h c (List.mem_reverse.mp hc)
  rw [trimEnd, trimEnd, List.reverse_append, List.dropWhile_append_of_pos hr]

theorem trim_append_blank {w w' : Text} (h : ∀ c ∈ w, isBlank c = true)
    (h' : ∀ c ∈ w', isBlank c = true) (t : Text) : trim (w ++ (t ++ w')) = trim t := by
  have hs : trimStart (w ++ (t ++ w')) = trimStart (t ++ w') := List.dropWhile_append_of_pos h
  rw [trim, trim, hs, trimStart, List.dropWhile_append]
  split
  · next ht =>
    have hw' : List.dropWhile isBlank w' = [] := trimStart_eq_nil h'
    rw [hw', trimStart, List.isEmpty_iff.mp ht]
  · exact trimEnd_append_blank h' _

theorem exists_append_trimEnd (t : Text) :
    ∃ w : Text, (∀ c ∈ w, isBlank c = true) ∧ t = trimEnd t ++ w := by
  refine ⟨(t.reverse.takeWhile isBlank).reverse, ?_, ?_⟩
  · intro c hc
    exact (List.mem_takeWhile_imp (List.mem_reverse.mp hc) : isBlank c = true)
  · rw [trimEnd, ← List.reverse_append, List.takeWhile_append_dropWhile, List.reverse_reverse]

/-- Trimming takes off blanks only. -/
theorem exists_append_trim (t : Text) :
    ∃ w w' : Text, (∀ c ∈ w, isBlank c = true) ∧ (∀ c ∈ w', isBlank c = true) ∧
      t = w ++ (trim t ++ w') := by
  obtain ⟨w', hw', he⟩ := exists_append_trimEnd (trimStart t)
  refine ⟨t.takeWhile isBlank, w', fun c hc => List.mem_takeWhile_imp hc, hw', ?_⟩
  rw [trim, ← he]
  exact List.takeWhile_append_dropWhile.symm

/-- What stands around the trimmed form is blank, however the text is split. -/
theorem blank_of_trim_eq {w t w' : Text} (h : trim (w ++ (t ++ w')) = t) :
    (∀ c ∈ w, isBlank c = true) ∧ ∀ c ∈ w', isBlank c = true := by
  have hblank (u : Text) :
      u.countP (fun c => !isBlank c) = 0 ↔ ∀ c ∈ u, isBlank c = true := by
    rw [List.countP_eq_zero]
    simp only [Bool.not_eq_true, Bool.not_eq_false']
  obtain ⟨v, v', hv, hv', hsplit⟩ := exists_append_trim (w ++ (t ++ w'))
  rw [h] at hsplit
  have hcount := congrArg (List.countP fun c => !isBlank c) hsplit
  simp only [List.countP_append, (hblank v).mpr hv, (hblank v').mpr hv'] at hcount
  exact ⟨(hblank w).mp (by omega), (hblank w').mp (by omega)⟩

theorem trim_trimEnd (t : Text) : trim (trimEnd t) = trim t := by
  obtain ⟨w, hw, ht⟩ := exists_append_trimEnd t
  have hnil : ∀ c ∈ ([] : Text), isBlank c = true := nofun
  have h := trim_append_blank hnil hw (trimEnd t)
  rw [List.nil_append, ← ht] at h
  exact h.symm

/-- A character that is no blank ends the blanks before it. -/
theorem trimStart_append_cons {c : Char} (hc : isBlank c = false) (t u : Text) :
    trimStart (t ++ c :: u) = trimStart t ++ c :: u := by
  rw [trimStart, List.dropWhile_append]
  split
  · next ht =>
    rw [trimStart, List.isEmpty_iff.mp ht, List.dropWhile_cons_of_neg (by simp [hc])]
    rfl
  · rfl

theorem trimEnd_append_cons {c : Char} (hc : isBlank c = false) (t u : Text) :
    trimEnd (t ++ c :: u) = t ++ c :: trimEnd u := by
  have hr : (t ++ c :: u).reverse = u.reverse ++ c :: t.reverse := by simp
  have hs : (u.reverse ++ c :: t.reverse).dropWhile isBlank =
      u.reverse.dropWhile isBlank ++ c :: t.reverse := trimStart_append_cons hc u.reverse t.reverse
  rw [trimEnd, hr, hs, trimEnd]
  simp

/-- Around a character that is no blank, the text before it is trimmed at the start only and the text
behind it at the end only. -/
theorem trim_append_cons {c : Char} (hc : isBlank c = false) (t u : Text) :
    trim (t ++ c :: u) = trimStart t ++ c :: trimEnd u := by
  rw [trim, trimStart_append_cons hc, trimEnd_append_cons hc]

theorem trim_cons {c : Char} (hc : isBlank c = false) (t : Text) :
    trim (c :: t) = c :: trimEnd t :=
  trim_append_cons hc [] t

theorem trim_trimStart (t : Text) : trim (trimStart t) = trim t := by
  rw [trim, trim, trimStart_trimStart]

theorem head?_trimEnd_ne {c : Char} {t : Text} (h : t.head? ≠ some c) : t.trimEnd.head? ≠ some c := by
  intro he
  obtain ⟨w, hw⟩ := trimEnd_prefix t
  rw [← hw] at h
  exact h (List.mem_head?_append_of_mem_head? he)

end Stockroom.Text
