import Stockroom.Query.Scan
import Stockroom.Proofs.Text.Cutting
import Mathlib.Data.List.Induction

/-! # Pieces of joined texts

A scan of two texts in a row reads the second from the state behind the first. So the pieces of a
joined text are those of both parts, and the two pieces that meet grown into one; a separator met at
rest keeps them apart. The state behind a text is the state behind its last piece, because every
cut is made at rest.
-/
namespace Stockroom.Scan

def Plain (c : Char) : Prop := c ≠ '"' ∧ c ≠ '(' ∧ c ≠ ')'

instance (c : Char) : Decidable (Plain c) := inferInstanceAs (Decidable (_ ∧ _ ∧ _))

theorem plain_space : Plain ' ' := by decide

theorem plain_tilde : Plain '~' := by decide

@[simp] theorem step_of_plain {c : Char} (h : Plain c) (s : Scan) : s.step c = s := by
  obtain ⟨hq, ho, hc⟩ := h
  simp [step, hq, ho, hc]

theorem run_of_plain {t : Text} (h : ∀ c ∈ t, Plain c) (s : Scan) : s.run t = s := by
  induction t with
  | nil => rfl
  | cons c t ih =>
    rw [run_cons, step_of_plain (h c List.mem_cons_self)]
    exact ih fun d hd => h d (List.mem_cons_of_mem c hd)

variable {separator : Char}

theorem pieces_cut (t : Text) :
    rest.pieces separator (separator :: t) = [] :: rest.pieces separator t := by
  simp [pieces]

theorem pieces_keep {s : Scan} {c : Char} (h : ¬(c = separator ∧ s = rest)) (t : Text) :
    s.pieces separator (c :: t) = Text.lengthenHead c ((s.step c).pieces separator t) := by
  rw [pieces, if_neg h]

@[simp] theorem pieces_ne_nil (separator : Char) (s : Scan) (t : Text) : s.pieces separator t ≠ [] := by
  cases t with
  | nil => simp [pieces]
  | cons c t =>
    rw [pieces]
    split
    · exact List.cons_ne_nil _ _
    · exact Text.lengthenHead_ne_nil c _

theorem exists_last_piece (separator : Char) (s : Scan) (t : Text) :
    ∃ init last, s.pieces separator t = init ++ [last] :=
  ⟨_, _, (List.dropLast_concat_getLast (pieces_ne_nil separator s t)).symm⟩

/-- The pieces that meet where two texts are joined become one piece. -/
theorem pieces_append (hp : Plain separator) {s : Scan} {a b last first : Text}
    {init more : List Text} (ha : s.pieces separator a = init ++ [last])
    (hb : (s.run a).pieces separator b = first :: more) :
    s.pieces separator (a ++ b) = init ++ (last ++ first) :: more := by
  induction a generalizing s init last with
  | nil =>
    rw [pieces] at ha
    obtain ⟨rfl, hl⟩ := List.append_eq_singleton_iff.mp ha.symm |>.resolve_right (by simp)
    simp_all
  | cons c a ih =>
    by_cases h : c = separator ∧ s = rest
    · obtain ⟨rfl, rfl⟩ := h
      rw [run_cons, step_of_plain hp] at hb
      rw [pieces_cut] at ha
      obtain ⟨init', rfl⟩ : ∃ init', init = [] :: init' := by
        cases init with
        | nil => simp at ha
        | cons p init' => exact ⟨init', by simp_all⟩
      rw [List.cons_append, pieces_cut, ih (by simpa using ha) hb]
      rfl
    · rw [pieces_keep h] at ha
      rw [List.cons_append, pieces_keep h]
      obtain ⟨init', last', hi⟩ := exists_last_piece separator (s.step c) a
      rw [ih hi hb]
      rw [hi] at ha
      cases init' with
      | nil =>
        obtain ⟨rfl, rfl⟩ : init = [] ∧ last = c :: last' := by
          cases init <;> simp_all [Text.lengthenHead]
        rfl
      | cons p init' =>
        obtain ⟨rfl, rfl⟩ : init = (c :: p) :: init' ∧ last = last' := by
          have h : ((c :: p) :: init') ++ [last'] = init ++ [last] := ha
          exact ⟨(List.append_inj' h rfl).1.symm, by simpa using (List.append_inj' h rfl).2.symm⟩
        rfl

/-- At rest a separator keeps the pieces of both sides apart. -/
theorem pieces_append_separator (hp : Plain separator) {s : Scan} {a : Text} (ha : s.run a = rest)
    (b : Text) : s.pieces separator (a ++ separator :: b) =
      s.pieces separator a ++ rest.pieces separator b := by
  obtain ⟨init, last, hl⟩ := exists_last_piece separator s a
  rw [pieces_append hp hl (by rw [ha]; exact pieces_cut b), hl]
  simp

/-- Joined by the separator, the pieces give the text back. -/
theorem intercalate_pieces (s : Scan) (t : Text) :
    [separator].intercalate (s.pieces separator t) = t := by
  induction t generalizing s with
  | nil => simp [pieces]
  | cons c t ih =>
    by_cases h : c = separator ∧ s = rest
    · obtain ⟨rfl, rfl⟩ := h
      rw [pieces_cut, Text.intercalate_nil_cons (pieces_ne_nil c rest t), ih]
    · rw [pieces_keep h, Text.intercalate_lengthenHead c (pieces_ne_nil separator _ t), ih]

/-- The characters of the pieces and of the separators between them are those of the text. -/
theorem perm_pieces (separator : Char) (s : Scan) (t : Text) :
    (List.replicate (s.pieces separator t).length separator ++ (s.pieces separator t).flatten).Perm
      (separator :: t) := by
  induction t generalizing s with
  | nil => exact .refl _
  | cons c t ih =>
    by_cases h : c = separator ∧ s = rest
    · obtain ⟨rfl, rfl⟩ := h
      rw [pieces_cut, List.length_cons, List.replicate_succ, List.flatten_cons, List.nil_append]
      exact (ih rest).cons c
    · rw [pieces_keep h]
      have hi := ih (s.step c)
      cases hp : (s.step c).pieces separator t with
      | nil => exact absurd hp (pieces_ne_nil separator _ t)
      | cons p ps =>
        rw [hp] at hi
        simp only [Text.lengthenHead, List.length_cons, List.flatten_cons, List.cons_append] at hi ⊢
        exact List.perm_middle.trans ((hi.cons c).trans (.swap separator c t))

/-- The pieces and the separators between them make up the length of the text. -/
theorem length_flatten_pieces (separator : Char) (s : Scan) (t : Text) :
    (s.pieces separator t).flatten.length + (s.pieces separator t).length = t.length + 1 := by
  have h := (perm_pieces separator s t).length_eq
  rw [List.length_append, List.length_replicate, List.length_cons] at h
  omega

/-- A separator that does not cut stays in a piece. -/
theorem count_flatten_pieces (separator : Char) (s : Scan) (t : Text) :
    (s.pieces separator t).flatten.count separator + (s.pieces separator t).length =
      t.count separator + 1 := by
  have h := (perm_pieces separator s t).count_eq separator
  rw [List.count_append, List.count_replicate_self, List.count_cons_self] at h
  omega

theorem length_flatten_pieces_le (separator : Char) (s : Scan) (t : Text) :
    (s.pieces separator t).flatten.length ≤ t.length := by
  have h := length_flatten_pieces separator s t
  have hn := List.length_pos_iff.mpr (pieces_ne_nil separator s t)
  omega

theorem length_le_of_mem_pieces {s : Scan} {t piece : Text} (h : piece ∈ s.pieces separator t) :
    piece.length ≤ t.length :=
  Nat.le_trans (List.sublist_flatten_of_mem h).length_le (length_flatten_pieces_le separator s t)

/-- A text is its own only piece if and only if no separator in it is met at rest. -/
theorem pieces_eq_singleton_iff (hp : Plain separator) {s : Scan} {t : Text} :
    s.pieces separator t = [t] ↔ ∀ u v, t = u ++ separator :: v → s.run u ≠ rest := by
  constructor
  · rintro h u v rfl hr
    rw [pieces_append_separator hp hr] at h
    have hl := congrArg List.length h
    have hu := List.length_pos_iff.mpr (pieces_ne_nil separator s u)
    have hv := List.length_pos_iff.mpr (pieces_ne_nil separator rest v)
    simp only [List.length_append, List.length_singleton] at hl
    omega
  · intro h
    induction t generalizing s with
    | nil => rfl
    | cons c t ih =>
      have hc : ¬(c = separator ∧ s = rest) := by
        rintro ⟨rfl, hs⟩
        exact h [] t rfl hs
      have ht : (s.step c).pieces separator t = [t] :=
        ih fun u v huv => h (c :: u) v (by rw [huv]; rfl)
      rw [pieces_keep hc, ht]
      rfl

/-- Where nothing is cut, a plain text behind a beginning that ends at rest holds no separator. -/
theorem not_mem_of_pieces (hp : Plain separator) {a t : Text} (ha : rest.run a = rest)
    (ht : ∀ c ∈ t, Plain c) (b : Text)
    (h : rest.pieces separator (a ++ (t ++ b)) = [a ++ (t ++ b)]) : separator ∉ t := by
  intro hm
  obtain ⟨u, v, rfl⟩ := List.append_of_mem hm
  have hu : rest.run (a ++ u) = rest := by
    rw [run_append, ha, run_of_plain fun c hc => ht c (List.mem_append_left _ hc)]
  exact (pieces_eq_singleton_iff hp).mp h (a ++ u) (v ++ b) (by simp) hu

/-- Every cut is made at rest, and the state behind a text is the state behind its last piece. -/
theorem exists_pieces_eq_concat (hp : Plain separator) (t : Text) :
    ∃ init last, rest.pieces separator t = init ++ [last] ∧
      (∀ p ∈ init, rest.run p = rest) ∧ rest.run last = rest.run t := by
  induction t using List.reverseRecOn with
  | nil => exact ⟨[], [], rfl, by simp, rfl⟩
  | append_singleton t c ih =>
    obtain ⟨init, last, hi, hr, hl⟩ := ih
    by_cases h : c = separator ∧ rest.run t = rest
    · obtain ⟨rfl, ht⟩ := h
      refine ⟨init ++ [last], [], ?_, ?_, ?_⟩
      · rw [pieces_append_separator hp ht, hi]
        rfl
      · intro p hm
        rcases List.mem_append.mp hm with hm | hm
        · exact hr p hm
        · rw [List.mem_singleton.mp hm, hl, ht]
      · simp [ht, step_of_plain hp]
    · refine ⟨init, last ++ [c], ?_, hr, ?_⟩
      · exact pieces_append hp hi (by rw [pieces_keep h]; rfl)
      · rw [run_append, run_append, hl]

/-- A piece is its own only piece. -/
theorem pieces_of_mem_pieces (hp : Plain separator) {t piece : Text}
    (h : piece ∈ rest.pieces separator t) : rest.pieces separator piece = [piece] := by
  induction t using List.reverseRecOn generalizing piece with
  | nil =>
    rw [List.mem_singleton.mp h]
    rfl
  | append_singleton t c ih =>
    obtain ⟨init, last, hi, _, hl⟩ := exists_pieces_eq_concat hp t
    rw [hi] at ih
    by_cases hc : c = separator ∧ rest.run t = rest
    · obtain ⟨rfl, ht⟩ := hc
      rw [pieces_append_separator hp ht, hi] at h
      rcases List.mem_append.mp h with h | h
      · exact ih h
      · rw [List.mem_singleton.mp h]
        rfl
    · have hgrown : (rest.run t).pieces separator [c] = [[c]] := by
        rw [pieces_keep hc]
        rfl
      rw [pieces_append hp hi hgrown] at h
      rcases List.mem_append.mp h with h | h
      · exact ih (List.mem_append_left [last] h)
      · rw [List.mem_singleton.mp h]
        have hlast : rest.pieces separator last = [] ++ [last] :=
          ih (List.mem_append_right init List.mem_cons_self)
        exact pieces_append hp hlast (by rw [hl]; exact hgrown)

/-- The text without the separators that are met at rest. -/
def uncut (separator : Char) (s : Scan) (t : Text) : Text :=
  ((t.inits.zip t).filter fun p => decide ¬(p.2 = separator ∧ s.run p.1 = rest)).map Prod.snd

private theorem uncut_cons (separator : Char) (s : Scan) (c : Char) (t : Text) :
    s.uncut separator (c :: t) = (if c = separator ∧ s = rest then [] else [c]) ++
      (s.step c).uncut separator t := by
  have hinits : (c :: t).inits.zip (c :: t) =
      ([], c) :: (t.inits.zip t).map (Prod.map (c :: ·) id) := by
    rw [← List.zip_map_left]
    rfl
  rw [uncut, hinits]
  by_cases h : c = separator ∧ s = rest
  · rw [List.filter_cons_of_neg (by simpa using h), if_pos h, List.filter_map, List.map_map]
    rfl
  · rw [List.filter_cons_of_pos (by exact decide_eq_true h), if_neg h, List.filter_map,
      List.map_cons, List.map_map]
    rfl

/-- The pieces hold all that does not cut. -/
theorem flatten_pieces (hp : Plain separator) (s : Scan) (t : Text) :
    (s.pieces separator t).flatten = s.uncut separator t := by
  induction t generalizing s with
  | nil => rfl
  | cons c t ih =>
    rw [uncut_cons, ← ih]
    by_cases h : c = separator ∧ s = rest
    · obtain ⟨rfl, rfl⟩ := h
      rw [if_pos ⟨rfl, rfl⟩, step_of_plain hp, pieces_cut]
      rfl
    · rw [if_neg h, pieces_keep h]
      cases hp : (s.step c).pieces separator t with
      | nil => exact absurd hp (pieces_ne_nil separator _ t)
      | cons p ps => rfl

/-- Texts that are whole, and all but the last at rest behind them, are the pieces of their join. -/
theorem pieces_intercalate (hp : Plain separator) {ts : List Text} (hne : ts ≠ [])
    (hw : ∀ t ∈ ts, rest.pieces separator t = [t]) (hr : ∀ t ∈ ts.dropLast, rest.run t = rest) :
    rest.pieces separator ([separator].intercalate ts) = ts := by
  induction ts with
  | nil => exact absurd rfl hne
  | cons t ts ih =>
    cases ts with
    | nil => simpa using hw t List.mem_cons_self
    | cons u us =>
      rw [List.intercalate_cons_cons, List.append_assoc, List.singleton_append,
        pieces_append_separator hp (hr t (by simp)), hw t List.mem_cons_self,
        ih (List.cons_ne_nil u us) (fun v hv => hw v (List.mem_cons_of_mem t hv))
          (fun v hv => hr v (by simp [List.dropLast_cons_of_ne_nil, hv]))]
      rfl

end Stockroom.Scan
