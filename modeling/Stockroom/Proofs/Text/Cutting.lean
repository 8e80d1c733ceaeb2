import Stockroom.Text.Basic

/-! # Cutting at a separator

The pieces of a text are what stands between its separators: joined by the separator they give the
text back, and none of them holds one. A list of texts without the separator is read off its join in
one way only, so these two facts say what the pieces are.
-/
namespace Stockroom.Text

variable {separator : Char}

theorem cut_separator (separator : Char) (t : Text) :
    cut separator (separator :: t) = [] :: cut separator t := by
  rw [cut, if_pos rfl]

theorem cut_cons {c : Char} (h : c ≠ separator) (t : Text) :
    cut separator (c :: t) = lengthenHead c (cut separator t) := by
  rw [cut, if_neg h]

@[simp] theorem cut_ne_nil (separator : Char) (t : Text) : cut separator t ≠ [] := by
  cases t with
  | nil => simp [cut]
  | cons c t =>
    rw [cut]
    split
    · exact List.cons_ne_nil _ _
    · exact lengthenHead_ne_nil c _

theorem cut_of_not_mem {t : Text} (h : separator ∉ t) : cut separator t = [t] := by
  induction t with
  | nil => rfl
  | cons c t ih =>
    rw [List.mem_cons, not_or] at h
    rw [cut_cons (Ne.symm h.1), ih h.2]
    rfl

theorem cut_append_separator {t : Text} (h : separator ∉ t) (u : Text) :
    cut separator (t ++ separator :: u) = t :: cut separator u := by
  induction t with
  | nil => exact cut_separator separator u
  | cons c t ih =>
    rw [List.mem_cons, not_or] at h
    rw [List.cons_append, cut_cons (Ne.symm h.1), ih h.2]
    rfl

theorem intercalate_nil_cons {pieces : List Text} (h : pieces ≠ []) :
    [separator].intercalate ([] :: pieces) = separator :: [separator].intercalate pieces := by
  cases pieces with
  | nil => exact absurd rfl h
  | cons p ps =>
    rw [List.intercalate_cons_cons]
    rfl

theorem intercalate_lengthenHead (c : Char) {pieces : List Text} (h : pieces ≠ []) :
    [separator].intercalate (lengthenHead c pieces) = c :: [separator].intercalate pieces := by
  cases pieces with
  | nil => exact absurd rfl h
  | cons p ps =>
    cases ps with
    | nil => simp [lengthenHead]
    | cons q qs => simp only [lengthenHead, List.intercalate_cons_cons, List.cons_append]

theorem intercalate_cut (separator : Char) (t : Text) :
    [separator].intercalate (cut separator t) = t := by
  induction t with
  | nil => simp [cut]
  | cons c t ih =>
    by_cases h : c = separator
    · rw [h, cut_separator, intercalate_nil_cons (cut_ne_nil separator t), ih]
    · rw [cut_cons h, intercalate_lengthenHead c (cut_ne_nil separator t), ih]

theorem not_mem_of_mem_cut {t piece : Text} (h : piece ∈ cut separator t) : separator ∉ piece := by
  induction t generalizing piece with
  | nil =>
    rw [List.mem_singleton.mp h]
    exact List.not_mem_nil
  | cons c t ih =>
    by_cases hc : c = separator
    · rw [hc, cut_separator] at h
      rcases List.mem_cons.mp h with rfl | h
      · exact List.not_mem_nil
      · exact ih h
    · rw [cut_cons hc] at h
      cases hp : cut separator t with
      | nil => exact absurd hp (cut_ne_nil separator t)
      | cons p ps =>
        rw [hp] at h ih
        rcases List.mem_cons.mp h with rfl | h
        · rw [List.mem_cons, not_or]
          exact ⟨Ne.symm hc, ih List.mem_cons_self⟩
        · exact ih (List.mem_cons_of_mem p h)

/-- Texts without the separator are the pieces of their join. -/
theorem cut_intercalate {pieces : List Text} (hne : pieces ≠ [])
    (h : ∀ piece ∈ pieces, separator ∉ piece) :
    cut separator ([separator].intercalate pieces) = pieces := by
  induction pieces with
  | nil => exact absurd rfl hne
  | cons p ps ih =>
    cases ps with
    | nil =>
      rw [List.intercalate_singleton]
      exact cut_of_not_mem (h p List.mem_cons_self)
    | cons q qs =>
      rw [List.intercalate_cons_cons, List.append_assoc, List.singleton_append,
        cut_append_separator (h p List.mem_cons_self),
        ih (List.cons_ne_nil q qs) fun piece hp => h piece (List.mem_cons_of_mem p hp)]

end Stockroom.Text
