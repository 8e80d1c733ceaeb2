import Stockroom.Proofs.Text.Trimmed

/-! # Delimiters

`between first last` puts a text between two characters, and `interior?` takes it out again. Between
characters that are not blank, a text keeps its blanks when it is trimmed. `cutFirst?` finds the two
sides of a separator again if the first side does not hold one.
-/
namespace Stockroom.Text
open Character

def between (first last : Char) (t : Text) : Text := first :: (t ++ [last])

variable {first last : Char}

@[simp] theorem length_between (t : Text) : (t.between first last).length = t.length + 2 := by
  simp [between]

theorem sublist_between (t : Text) : t.Sublist (t.between first last) :=
  (List.sublist_append_left t [last]).trans (List.sublist_cons_self first _)

@[simp] theorem head?_between (t : Text) : (t.between first last).head? = some first := rfl

@[simp] theorem getLast?_between (t : Text) : (t.between first last).getLast? = some last := by
  have h : t.between first last = (first :: t) ++ [last] := rfl
  rw [h, List.getLast?_concat]

theorem interior?_eq_some_iff {t inner : Text} :
    interior? first last t = some inner ↔ t = inner.between first last :=
  interior?_eq_some

@[simp] theorem interior?_between (t : Text) : interior? first last (t.between first last) = some t :=
  interior?_eq_some_iff.mpr rfl

theorem interior?_eq_none {t : Text} (h : t.head? ≠ some first) :
    interior? first last t = none := by
  cases ht : interior? first last t with
  | none => rfl
  | some inner =>
    rw [interior?_eq_some_iff] at ht
    rw [ht, head?_between] at h
    exact absurd rfl h

theorem trim_between (hf : isBlank first = false) (hl : isBlank last = false) (t : Text) :
    (t.between first last).trim = t.between first last := by
  apply trim_eq_self
  · rw [trimStart_eq_self_iff, head?_between]
    intro c hc
    cases hc
    exact hf
  · rw [trimEnd_eq_self_iff, getLast?_between]
    intro c hc
    cases hc
    exact hl

theorem cutFirst?_eq_none {separator : Char} {t : Text} (h : separator ∉ t) :
    cutFirst? separator t = none := by
  induction t with
  | nil => rfl
  | cons c t ih =>
    rw [List.mem_cons, not_or] at h
    rw [cutFirst?, if_neg (Ne.symm h.1), ih h.2]
    rfl

theorem cutFirst?_eq_some {separator : Char} {t before behind : Text}
    (h : cutFirst? separator t = some (before, behind)) : t = before ++ separator :: behind := by
  induction t generalizing before with
  | nil => cases h
  | cons c t ih =>
    rw [cutFirst?] at h
    split at h
    · next hc =>
      cases h
      rw [hc, List.nil_append]
    · obtain ⟨⟨u, v⟩, hu, he⟩ := Option.map_eq_some_iff.mp h
      cases he
      rw [ih hu, List.cons_append]

theorem cutFirst?_append {separator : Char} {t : Text} (h : separator ∉ t) (u : Text) :
    cutFirst? separator (t ++ separator :: u) = some (t, u) := by
  induction t with
  | nil => simp [cutFirst?]
  | cons c t ih =>
    rw [List.mem_cons, not_or] at h
    rw [List.cons_append, cutFirst?, if_neg (Ne.symm h.1), ih h.2]
    rfl

/-- A text with a separator is put together in one way from two sides, the first without one. -/
theorem append_cons_inj {separator : Char} {s t u v : Text} (hs : separator ∉ s)
    (ht : separator ∉ t) (h : s ++ separator :: u = t ++ separator :: v) : s = t ∧ u = v := by
  have hcut := cutFirst?_append hs u
  rw [h, cutFirst?_append ht v] at hcut
  simpa [eq_comm] using hcut

end Stockroom.Text
