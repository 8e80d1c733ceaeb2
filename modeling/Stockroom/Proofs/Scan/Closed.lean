import Stockroom.Proofs.Scan.Pieces

/-! # Closed texts

A text is closed when every parenthesis outside quotes has its partner and every quote its own. A
closed text reads alike inside any number of open parentheses, and whatever stands in parentheses
around it is never at rest before the last of them, so no separator in it cuts. A whole text is
closed and is its own only piece.
-/
namespace Stockroom.Scan

/-- A step that stops at a closing parenthesis with none open. -/
def stepStrict (s : Scan) (c : Char) : Option Scan :=
  if c = ')' ∧ s = rest then none else some (s.step c)

def runStrict (s : Scan) (t : Text) : Option Scan := t.foldlM stepStrict s

@[simp] theorem runStrict_cons (s : Scan) (c : Char) (t : Text) :
    s.runStrict (c :: t) = (s.stepStrict c).bind fun m => m.runStrict t := rfl

@[simp] theorem runStrict_append (s : Scan) (t u : Text) :
    s.runStrict (t ++ u) = (s.runStrict t).bind fun m => m.runStrict u :=
  List.foldlM_append

@[simp] theorem stepStrict_of_plain {c : Char} (h : Plain c) (s : Scan) :
    s.stepStrict c = some s := by
  simp [stepStrict, h, h.2.2]

theorem runStrict_of_plain {t : Text} (h : ∀ c ∈ t, Plain c) (s : Scan) :
    s.runStrict t = some s := by
  induction t with
  | nil => rfl
  | cons c t ih =>
    rw [runStrict_cons, stepStrict_of_plain (h c List.mem_cons_self)]
    exact ih fun d hd => h d (List.mem_cons_of_mem c hd)

theorem run_of_runStrict {s s' : Scan} {t : Text} (h : s.runStrict t = some s') :
    s.run t = s' := by
  induction t generalizing s with
  | nil => exact Option.some.inj h
  | cons c t ih =>
    obtain ⟨m, hm, ht⟩ := Option.bind_eq_some_iff.mp h
    rw [stepStrict] at hm
    split at hm
    · cases hm
    · cases hm
      exact ih ht

theorem runStrict_of_quoted {s : Scan} {t : Text} (hs : s.quoted = true) (h : '"' ∉ t) :
    s.runStrict t = some s := by
  induction t with
  | nil => rfl
  | cons c t ih =>
    rw [List.mem_cons, not_or] at h
    have hc : s.stepStrict c = some s := by
      have hr : s ≠ rest := by
        rintro rfl
        cases hs
      simp [stepStrict, step, hr, hs, Ne.symm h.1]
    rw [runStrict_cons, hc]
    exact ih h.2

def within (n : Nat) (s : Scan) : Scan := { s with depth := s.depth + n }

theorem within_succ_ne_rest (n : Nat) (s : Scan) : s.within (n + 1) ≠ rest := by
  simp [within, rest]

theorem stepStrict_within {s s' : Scan} {c : Char} (n : Nat) (h : s.stepStrict c = some s') :
    (s.within n).stepStrict c = some (s'.within n) := by
  obtain ⟨depth, quoted⟩ := s
  rw [stepStrict] at h
  split at h
  · cases h
  · next hc =>
    cases h
    have hn : ¬(c = ')' ∧ within n ⟨depth, quoted⟩ = rest) := by
      rintro ⟨rfl, he⟩
      simp only [within, rest, mk.injEq, Nat.add_eq_zero_iff] at he
      exact hc ⟨rfl, by simp [rest, he]⟩
    rw [stepStrict, if_neg hn]
    simp only [step, within, rest, mk.injEq] at hc ⊢
    split_ifs <;> grind

theorem runStrict_within {s s' : Scan} {t : Text} (n : Nat) (h : s.runStrict t = some s') :
    (s.within n).runStrict t = some (s'.within n) := by
  induction t generalizing s with
  | nil => rw [Option.some.inj h]; rfl
  | cons c t ih =>
    obtain ⟨m, hm, ht⟩ := Option.bind_eq_some_iff.mp h
    rw [runStrict_cons, stepStrict_within n hm]
    exact ih ht

/-- No parenthesis and no quote of the text is without its partner. -/
def Closed (t : Text) : Prop := rest.runStrict t = some rest

instance (t : Text) : Decidable (Closed t) := inferInstanceAs (Decidable (_ = _))

namespace Closed

theorem run_eq {t : Text} (h : Closed t) : rest.run t = rest := run_of_runStrict h

theorem of_plain {t : Text} (h : ∀ c ∈ t, Plain c) : Closed t := runStrict_of_plain h rest

theorem append {t u : Text} (ht : Closed t) (hu : Closed u) : Closed (t ++ u) := by
  rw [Closed, runStrict_append, ht]
  exact hu

theorem cons {c : Char} {t : Text} (hc : Plain c) (ht : Closed t) : Closed (c :: t) := by
  rw [Closed, runStrict_cons, stepStrict_of_plain hc]
  exact ht

theorem intercalate {separator : Char} (hp : Plain separator) {ts : List Text}
    (h : ∀ t ∈ ts, Closed t) : Closed ([separator].intercalate ts) := by
  induction ts with
  | nil => rfl
  | cons t ts ih =>
    have ht := h t List.mem_cons_self
    have hts := ih fun u hu => h u (List.mem_cons_of_mem t hu)
    cases ts with
    | nil => simpa using ht
    | cons u us =>
      rw [List.intercalate_cons_cons, List.append_assoc, List.singleton_append]
      exact ht.append (hts.cons hp)

theorem parenthesised {t : Text} (h : Closed t) : Closed ('(' :: (t ++ [')'])) := by
  have hi : (rest.within 1).runStrict t = some (rest.within 1) := runStrict_within 1 h
  have ho : rest.stepStrict '(' = some (rest.within 1) := by decide
  rw [Closed, runStrict_cons, ho, Option.bind_some, runStrict_append, hi]
  decide

/-- Behind an opening parenthesis, a closed text is never at rest. -/
theorem run_within_ne_rest {t u v : Text} (h : Closed t) (he : t = u ++ v) :
    (rest.within 1).run u ≠ rest := by
  rw [he, Closed, runStrict_append] at h
  obtain ⟨m, hm, _⟩ := Option.bind_eq_some_iff.mp h
  rw [run_of_runStrict (runStrict_within 1 hm)]
  exact within_succ_ne_rest 0 m

end Closed

/-- Delimiters protect a text between them that is nowhere at rest behind the first of them. -/
theorem pieces_enclosed {separator first last : Char} {t : Text} (hp : Plain separator)
    (hf : separator ≠ first) (hl : separator ≠ last)
    (h : ∀ u v, t = u ++ v → (rest.step first).run u ≠ rest) :
    rest.pieces separator (first :: (t ++ [last])) = [first :: (t ++ [last])] := by
  refine (pieces_eq_singleton_iff hp).mpr ?_
  intro u v huv
  cases u with
  | nil => exact absurd (List.cons.inj huv).1.symm hf
  | cons c u =>
    obtain ⟨rfl, ht⟩ := List.cons.inj huv
    rcases List.eq_nil_or_concat v with rfl | ⟨v, d, rfl⟩
    · have he := (List.append_inj' ht rfl).2
      exact absurd (List.singleton_inj.mp he).symm hl
    · have he : t ++ [last] = (u ++ separator :: v) ++ [d] := by simpa using ht
      exact h u (separator :: v) (List.append_inj' he rfl).1

structure Whole (separator : Char) (t : Text) : Prop where
  closed : Closed t
  one : rest.pieces separator t = [t]

namespace Whole

variable {separator : Char}

instance (t : Text) : Decidable (Whole separator t) :=
  decidable_of_iff (Closed t ∧ rest.pieces separator t = [t])
    ⟨fun h => ⟨h.1, h.2⟩, fun h => ⟨h.closed, h.one⟩⟩

theorem of_plain {t : Text} (hp : Plain separator) (h : ∀ c ∈ t, Plain c) (hs : separator ∉ t) :
    Whole separator t := by
  refine ⟨.of_plain h, (pieces_eq_singleton_iff hp).mpr ?_⟩
  rintro u v rfl
  exact absurd (List.mem_append_right u List.mem_cons_self) hs

theorem append {t u : Text} (hp : Plain separator) (ht : Whole separator t)
    (hu : Whole separator u) : Whole separator (t ++ u) := by
  refine ⟨ht.closed.append hu.closed, ?_⟩
  have ho : rest.pieces separator t = [] ++ [t] := ht.one
  have hr : (rest.run t).pieces separator u = [u] := by
    rw [ht.closed.run_eq]
    exact hu.one
  exact pieces_append hp ho hr

/-- What stands in parentheses is protected by them. -/
theorem parenthesised {t : Text} (hp : Plain separator) (h : Closed t) :
    Whole separator ('(' :: (t ++ [')'])) :=
  ⟨h.parenthesised, pieces_enclosed hp hp.2.1 hp.2.2 fun _ _ he => h.run_within_ne_rest he⟩

/-- What stands between quotes is protected by them. -/
theorem quoted {t : Text} (hp : Plain separator) (h : '"' ∉ t) :
    Whole separator ('"' :: (t ++ ['"'])) := by
  have ho : rest.stepStrict '"' = some ⟨0, true⟩ := by decide
  have hi : runStrict ⟨0, true⟩ t = some ⟨0, true⟩ := runStrict_of_quoted rfl h
  constructor
  · rw [Closed, runStrict_cons, ho, Option.bind_some, runStrict_append, hi]
    decide
  · refine pieces_enclosed hp hp.1 hp.1 ?_
    rintro u v rfl
    have hu : runStrict ⟨0, true⟩ u = some ⟨0, true⟩ :=
      runStrict_of_quoted rfl fun hm => h (List.mem_append_left v hm)
    have hs : rest.step '"' = ⟨0, true⟩ := by decide
    rw [hs, run_of_runStrict hu]
    decide

/-- Whole texts are the pieces of their join. -/
theorem pieces_intercalate {ts : List Text} (hp : Plain separator) (hne : ts ≠ [])
    (h : ∀ t ∈ ts, Whole separator t) :
    rest.pieces separator ([separator].intercalate ts) = ts :=
  Scan.pieces_intercalate hp hne (fun t ht => (h t ht).one)
    fun t ht => (h t ((List.dropLast_sublist ts).subset ht)).closed.run_eq

end Whole

end Stockroom.Scan
