import Stockroom.Proofs.Text.Folding
import Mathlib.Data.List.TakeWhile
import Mathlib.Data.List.Chain

/-! # The order of marks

Decomposition sorts each run of marks by combining class. Two texts in a row are sorted apart if no
mark at the end of the first has a greater class than one at the start of the second. A starter ends
a run, so a starter at the place where they meet keeps any two texts apart. Sorting commutes with
dropping marks, as long as every starter is kept.
-/
namespace Stockroom.Text
open Character

def isMark (c : Char) : Bool := decide (0 < combiningClass c)

def isBelow (c d : Char) : Bool := decide (0 < combiningClass d ∧ combiningClass d < combiningClass c)

theorem insertMark_cons (c d : Char) (t : Text) :
    insertMark c (d :: t) = if isBelow c d then d :: insertMark c t else c :: d :: t := by
  simp only [insertMark, isBelow, decide_eq_true_eq]

theorem insertMark_of_head {c : Char} {t : Text} (h : ∀ d ∈ t.head?, isBelow c d = false) :
    insertMark c t = c :: t := by
  cases t with
  | nil => rfl
  | cons d t => rw [insertMark_cons, h d rfl, if_neg Bool.false_ne_true]

theorem reorder_cons (c : Char) (t : Text) : reorder (c :: t) = insertMark c (reorder t) := rfl

def startMarks (t : Text) : Text := t.takeWhile isMark

def endMarks (t : Text) : Text := t.reverse.takeWhile isMark

/-- No mark at the end of the first text has a greater class than one at the start of the second. -/
def SortedApart (a b : Text) : Prop :=
  ∀ m ∈ endMarks a, ∀ n ∈ startMarks b, combiningClass m ≤ combiningClass n

instance (a b : Text) : Decidable (SortedApart a b) :=
  decidable_of_iff ((endMarks a).all fun m => (startMarks b).all fun n =>
    decide (combiningClass m ≤ combiningClass n)) (by simp [SortedApart])

theorem endMarks_of_marks {t : Text} (h : ∀ c ∈ t, isMark c = true) : endMarks t = t.reverse :=
  List.takeWhile_eq_self_iff.mpr fun c hc => h c (List.mem_reverse.mp hc)

theorem startMarks_of_marks {t : Text} (h : ∀ c ∈ t, isMark c = true) : startMarks t = t :=
  List.takeWhile_eq_self_iff.mpr h

theorem endMarks_subset_cons (c : Char) (t : Text) : endMarks t ⊆ endMarks (c :: t) := by
  rw [endMarks, endMarks, List.reverse_cons, List.takeWhile_append]
  split
  · exact fun m hm => List.mem_append_left _ ((List.takeWhile_sublist _).subset hm)
  · exact fun m hm => hm

theorem SortedApart.of_cons {c : Char} {a b : Text} (h : SortedApart (c :: a) b) :
    SortedApart a b := fun m hm => h m (endMarks_subset_cons c a hm)

theorem startMarks_eq_nil {t : Text} (h : ∀ c ∈ t.head?, isMark c = false) : startMarks t = [] := by
  cases t with
  | nil => rfl
  | cons c t => exact List.takeWhile_cons_of_neg (by rw [h c rfl]; exact Bool.false_ne_true)

theorem endMarks_eq_nil {t : Text} (h : ∀ c ∈ t.getLast?, isMark c = false) : endMarks t = [] := by
  rw [← List.head?_reverse] at h
  exact startMarks_eq_nil h

/-- A text that starts with a starter is sorted apart from whatever stands in front. -/
theorem SortedApart.of_head {a b : Text} (h : ∀ c ∈ b.head?, isMark c = false) :
    SortedApart a b := by
  intro m _ n hn
  rw [startMarks_eq_nil h] at hn
  cases hn

/-- A text that ends with a starter is sorted apart from whatever follows. -/
theorem SortedApart.of_getLast {a b : Text} (h : ∀ c ∈ a.getLast?, isMark c = false) :
    SortedApart a b := by
  intro m hm
  rw [endMarks_eq_nil h] at hm
  cases hm

/-- If each of three texts is sorted apart from the next, the first is from the other two. -/
theorem SortedApart.append {a b c : Text} (hab : SortedApart a b) (hbc : SortedApart b c)
    (hb : b ≠ []) : SortedApart a (b ++ c) := by
  intro m hm n hn
  by_cases hmarks : ∀ d ∈ b, isMark d = true
  · rw [startMarks, List.takeWhile_append_of_pos hmarks] at hn
    have hstart : ∀ d ∈ b, combiningClass m ≤ combiningClass d := fun d hd =>
      hab m hm d (by rwa [startMarks_of_marks hmarks])
    rcases List.mem_append.mp hn with hn | hn
    · exact hstart n hn
    · obtain ⟨d, hd⟩ := List.exists_mem_of_ne_nil b hb
      have hdn : combiningClass d ≤ combiningClass n :=
        hbc d (by rw [endMarks_of_marks hmarks]; exact List.mem_reverse.mpr hd) n hn
      exact (hstart d hd).trans hdn
  · have hstart : startMarks (b ++ c) = startMarks b := by
      rw [startMarks, List.takeWhile_append, if_neg]
      · rfl
      · intro hlength
        have hself := (List.takeWhile_sublist isMark).eq_of_length hlength
        exact hmarks (List.takeWhile_eq_self_iff.mp hself)
    rw [hstart] at hn
    exact hab m hm n hn

theorem perm_startMarks_insertMark {c : Char} (hc : isMark c = true) (t : Text) :
    (startMarks (insertMark c t)).Perm (c :: startMarks t) := by
  induction t with
  | nil => simp [insertMark, startMarks, hc]
  | cons d t ih =>
    rw [insertMark_cons]
    split
    · next hd =>
      have hmark : isMark d = true := by
        simp only [isBelow, decide_eq_true_eq] at hd
        exact decide_eq_true hd.1
      rw [startMarks, startMarks, List.takeWhile_cons_of_pos hmark, List.takeWhile_cons_of_pos hmark]
      exact (ih.cons d).trans (.swap c d _)
    · rw [startMarks, List.takeWhile_cons_of_pos hc]
      exact .refl _

/-- The same marks stand at the start before and after sorting. -/
theorem perm_startMarks_reorder (t : Text) : (startMarks (reorder t)).Perm (startMarks t) := by
  induction t with
  | nil => exact .refl _
  | cons c t ih =>
    rw [reorder_cons]
    cases hc : isMark c with
    | true =>
      rw [startMarks, startMarks, List.takeWhile_cons_of_pos hc]
      exact (perm_startMarks_insertMark hc _).trans (ih.cons c)
    | false =>
      have hbelow : ∀ d ∈ (reorder t).head?, isBelow c d = false := by
        intro d _
        simp only [isMark, isBelow, decide_eq_false_iff_not] at hc ⊢
        omega
      rw [insertMark_of_head hbelow, startMarks, startMarks,
        List.takeWhile_cons_of_neg (by simp [hc]), List.takeWhile_cons_of_neg (by simp [hc])]

/-- A mark stays in the first text if it goes behind all of it but not behind what follows. -/
theorem insertMark_append {c : Char} {t u : Text}
    (h : (∀ d ∈ t, isBelow c d = true) → ∀ d ∈ u.head?, isBelow c d = false) :
    insertMark c (t ++ u) = insertMark c t ++ u := by
  induction t with
  | nil => exact insertMark_of_head (h fun d hd => absurd hd List.not_mem_nil)
  | cons d t ih =>
    rw [List.cons_append, insertMark_cons, insertMark_cons]
    split
    · next hd =>
      rw [ih fun ht => h (List.forall_mem_cons.mpr ⟨hd, ht⟩)]
      rfl
    · rfl

/-- Texts that are sorted apart are sorted one by one. -/
theorem reorder_append {a b : Text} (h : SortedApart a b) :
    reorder (a ++ b) = reorder a ++ reorder b := by
  induction a with
  | nil => rfl
  | cons c a ih =>
    rw [List.cons_append, reorder_cons, reorder_cons, ih h.of_cons, insertMark_append]
    intro hbelow d hd
    by_contra hd'
    rw [Bool.not_eq_false] at hd'
    have hcd : combiningClass d < combiningClass c ∧ 0 < combiningClass d := by
      simpa [isBelow, and_comm] using hd'
    have hmarks : ∀ m ∈ c :: a, isMark m = true := by
      intro m hm
      rcases List.mem_cons.mp hm with rfl | hm
      · exact decide_eq_true (Nat.lt_trans hcd.2 hcd.1)
      · have hm := hbelow m ((perm_reorder a).mem_iff.mpr hm)
        simp only [isBelow, decide_eq_true_eq] at hm
        exact decide_eq_true hm.1
    have hend : c ∈ endMarks (c :: a) := by
      rw [endMarks_of_marks hmarks]
      exact List.mem_reverse.mpr List.mem_cons_self
    have hstart : d ∈ startMarks b := by
      refine (perm_startMarks_reorder b).mem_iff.mp ?_
      cases hb : reorder b with
      | nil => rw [hb] at hd; cases hd
      | cons e t =>
        rw [hb] at hd
        cases hd
        have hmark : isMark d = true := decide_eq_true hcd.2
        rw [startMarks, List.takeWhile_cons_of_pos hmark]
        exact List.mem_cons_self
    exact absurd (h c hend d hstart) (Nat.not_le.mpr hcd.1)

def IsSorted (t : Text) : Prop :=
  t.IsChain fun c d => combiningClass d = 0 ∨ combiningClass c ≤ combiningClass d

theorem isSorted_insertMark {c : Char} {t : Text} (h : IsSorted t) : IsSorted (insertMark c t) := by
  induction t with
  | nil => exact .singleton c
  | cons d t ih =>
    rw [insertMark_cons]
    cases hd : isBelow c d with
    | false =>
      have hcd : combiningClass d = 0 ∨ combiningClass c ≤ combiningClass d := by
        simp only [isBelow, decide_eq_false_iff_not] at hd
        omega
      exact List.isChain_cons_cons.mpr ⟨hcd, h⟩
    | true =>
      have hcd : combiningClass d ≤ combiningClass c := by
        simp only [isBelow, decide_eq_true_eq] at hd
        omega
      have hrest := ih h.tail
      cases t with
      | nil => exact List.isChain_cons_cons.mpr ⟨.inr hcd, .singleton c⟩
      | cons e t =>
        rw [if_pos rfl]
        rw [insertMark_cons] at hrest ⊢
        split at hrest
        · next he =>
          rw [if_pos he]
          exact List.isChain_cons_cons.mpr ⟨(List.isChain_cons_cons.mp h).1, hrest⟩
        · next he =>
          rw [if_neg he]
          exact List.isChain_cons_cons.mpr ⟨.inr hcd, hrest⟩

theorem isSorted_reorder (t : Text) : IsSorted (reorder t) := by
  induction t with
  | nil => exact .nil
  | cons c t ih => exact isSorted_insertMark ih

variable {keep : Char → Bool} (hkeep : ∀ c, isMark c = false → keep c = true)
include hkeep

/-- If a mark need not go behind the head of a sorted text, it need not go behind what is kept. -/
theorem isBelow_head_filter {c d : Char} {t : Text} (ht : IsSorted (d :: t))
    (hd : isBelow c d = false) : ∀ e ∈ ((d :: t).filter keep).head?, isBelow c e = false := by
  induction t generalizing d with
  | nil =>
    intro e he
    cases hk : keep d with
    | true =>
      rw [List.filter_cons_of_pos hk] at he
      cases he
      exact hd
    | false =>
      rw [List.filter_cons_of_neg (by rw [hk]; exact Bool.false_ne_true)] at he
      cases he
  | cons e t ih =>
    cases hk : keep d with
    | true =>
      intro f hf
      rw [List.filter_cons_of_pos hk] at hf
      cases hf
      exact hd
    | false =>
      rw [List.filter_cons_of_neg (by rw [hk]; exact Bool.false_ne_true)]
      have hmark : isMark d = true := by
        rw [← Bool.not_eq_false]
        intro hstarter
        rw [hkeep d hstarter] at hk
        cases hk
      obtain ⟨hde, hrest⟩ := List.isChain_cons_cons.mp ht
      refine ih hrest ?_
      simp only [isBelow, isMark, decide_eq_false_iff_not, decide_eq_true_eq] at hd hmark ⊢
      omega

theorem filter_insertMark {c : Char} {t : Text} (ht : IsSorted t) :
    (insertMark c t).filter keep =
      if keep c then insertMark c (t.filter keep) else t.filter keep := by
  induction t with
  | nil => exact List.filter_cons
  | cons d t ih =>
    rw [insertMark_cons]
    cases hd : isBelow c d with
    | false =>
      rw [if_neg Bool.false_ne_true, List.filter_cons,
        insertMark_of_head (isBelow_head_filter hkeep ht hd)]
    | true =>
      rw [if_pos rfl, List.filter_cons, ih ht.tail, List.filter_cons]
      cases keep d with
      | false => rfl
      | true => simp only [if_true, insertMark_cons, hd]; split <;> rfl

/-- Marks may be dropped before or after sorting. -/
theorem filter_reorder (t : Text) : (reorder t).filter keep = reorder (t.filter keep) := by
  induction t with
  | nil => rfl
  | cons c t ih =>
    rw [reorder_cons, filter_insertMark hkeep (isSorted_reorder t), ih, List.filter_cons]
    split
    · rfl
    · rfl

end Stockroom.Text
