import Stockroom.Proofs.Text.Quoting
import Stockroom.Report.Markup

/-! # Escaped texts

`unescape` takes the backslashes away that `escape` has put in front of tags. It cannot tell the
backslash at the end of a text from the one that `escape` adds to it, so it gives back the texts that
do not end in a backslash. A quoted text ends in its quote, and is one of them.
-/
namespace Stockroom

def unescapeBehind (run : Nat) : Text → Text
  | [] => List.replicate run '\\'
  | c :: rest =>
    if c = '\\' then unescapeBehind (run + 1) rest
    else if c = '[' ∧ opensTag rest then List.replicate (run / 2) '\\' ++ '[' :: unescapeBehind 0 rest
    else List.replicate run '\\' ++ c :: unescapeBehind 0 rest

def unescape (t : Text) : Text := unescapeBehind 0 t

theorem closes_backslashes (n : Nat) (t : Text) : closes (List.replicate n '\\' ++ t) = closes t := by
  induction n with
  | zero => rfl
  | succ n ih => exact ih

theorem unescapeBehind_backslashes (run n : Nat) (t : Text) :
    unescapeBehind run (List.replicate n '\\' ++ t) = unescapeBehind (run + n) t := by
  induction n generalizing run with
  | zero => rfl
  | succ n ih =>
    rw [List.replicate_succ, List.cons_append, unescapeBehind, if_pos rfl, ih]
    congr 1
    omega

/-- Escaping moves no bracket. -/
@[simp] theorem closes_escapeBehind (run : Nat) (t : Text) : closes (escapeBehind run t) = closes t := by
  induction t generalizing run with
  | nil =>
    rw [escapeBehind]
    split <;> rfl
  | cons c rest ih =>
    rw [escapeBehind]
    split
    · next hc =>
      subst hc
      exact ih (run + 1)
    · split
      · next hc =>
        rw [hc.1, closes_backslashes]
        rfl
      · simp only [closes, ih]

/-- What stands behind a bracket makes a tag of it before and after escaping. -/
@[simp] theorem opensTag_escapeBehind (run : Nat) (t : Text) :
    opensTag (escapeBehind run t) = opensTag t := by
  cases t with
  | nil =>
    rw [escapeBehind]
    split <;> rfl
  | cons c rest =>
    rw [escapeBehind]
    split
    · next hc =>
      subst hc
      rfl
    · split
      · next hc =>
        rw [hc.1]
        rfl
      · simp only [opensTag, closes_escapeBehind]

/-- The backslashes of the run have been passed on the way and are given back with the text. -/
theorem unescapeBehind_escapeBehind {last : Char} (hl : last ≠ '\\') (run : Nat) (t : Text) :
    unescapeBehind run (escapeBehind run (t ++ [last])) =
      List.replicate run '\\' ++ (t ++ [last]) := by
  induction t generalizing run with
  | nil => simp [escapeBehind, unescapeBehind, opensTag, hl]
  | cons c t ih =>
    rw [List.cons_append, escapeBehind]
    split
    · next hc =>
      rw [unescapeBehind, if_pos rfl, ih, hc, List.replicate_succ', List.append_assoc]
      rfl
    · next hc =>
      split
      · next htag =>
        have hrun : (run + (run + 1)) / 2 = run := by omega
        rw [unescapeBehind_backslashes, unescapeBehind, if_neg (by decide),
          if_pos ⟨rfl, by rw [opensTag_escapeBehind]; exact htag.2⟩, hrun, ih, htag.1]
        rfl
      · next htag =>
        rw [unescapeBehind, if_neg hc, if_neg (by rwa [opensTag_escapeBehind]), ih]
        rfl

theorem unescape_escape {last : Char} (hl : last ≠ '\\') (t : Text) :
    unescape (escape (t ++ [last])) = t ++ [last] :=
  unescapeBehind_escapeBehind hl 0 t

/-- No two texts look the same after quoting and escaping. -/
theorem escape_quoted_injective : Function.Injective fun t : Text => escape t.quoted := by
  have hback (t : Text) : unescape (escape t.quoted) = t.quoted := by
    obtain ⟨u, hu⟩ := Text.quoted_eq_concat t
    have hmark : Text.quoteMark t ≠ '\\' := by
      rcases Text.quoteMark_eq t with h | h <;> rw [h] <;> decide
    rw [hu, unescape_escape hmark]
  intro s t h
  apply Text.quoted_injective
  rw [← hback s, ← hback t]
  exact congrArg unescape h

example : escape ['\\'] = escape ['\\', '\\'] := by decide

end Stockroom
