import Stockroom.Proofs.Report.Escaping
import Mathlib.Data.List.TakeWhile
import Mathlib.Tactic.ByContra

/-! # Active tags

The terminal obeys a tag if an even number of backslashes stands in front of it. `activeTags` lists
these tags with their places. Escaped text adds none, as long as no bracket closes behind it before
the next one opens, but its last backslashes may disable a tag that follows at once: a run of odd
length does so, unless it is a single backslash, which `escape` doubles.
-/
namespace Stockroom

def runAfter (run : Nat) (c : Char) : Nat := if c = '\\' then run + 1 else 0

def runBehind (run : Nat) (t : Text) : Nat := t.foldl runAfter run

/-- The tags that the terminal obeys in a string behind a run of backslashes, with their places. -/
def activeTagsBehind (place run : Nat) : Text → List (Nat × Text)
  | [] => []
  | c :: rest =>
    (if c = '[' ∧ opensTag rest ∧ run % 2 = 0 then [(place, rest.takeWhile (· ≠ ']'))] else []) ++
      activeTagsBehind (place + 1) (runAfter run c) rest

def activeTags (s : Text) : List (Nat × Text) := activeTagsBehind 0 0 s

theorem runBehind_cons (run : Nat) (c : Char) (t : Text) :
    runBehind run (c :: t) = runBehind (runAfter run c) t := rfl

theorem runBehind_append (run : Nat) (t u : Text) :
    runBehind run (t ++ u) = runBehind (runBehind run t) u := List.foldl_append

theorem runAfter_of_ne {c : Char} (h : c ≠ '\\') (run : Nat) : runAfter run c = 0 := if_neg h

theorem runBehind_backslashes (run n : Nat) : runBehind run (List.replicate n '\\') = run + n := by
  induction n generalizing run with
  | zero => rfl
  | succ n ih =>
    have hstep : runAfter run '\\' = run + 1 := rfl
    rw [List.replicate_succ, runBehind_cons, hstep, ih]
    omega

/-- A text that neither opens nor closes a bracket nor disables a tag. -/
def Text.Inert (t : Text) : Prop := ∀ c ∈ t, c ≠ '[' ∧ c ≠ ']' ∧ c ≠ '\\'

instance (t : Text) : Decidable t.Inert :=
  List.decidableBAll (fun c => c ≠ '[' ∧ c ≠ ']' ∧ c ≠ '\\') t

structure IsTagName (name : Text) : Prop where
  starts : name.head?.any isTagStart = true
  not_open : '[' ∉ name
  not_close : ']' ∉ name

instance (name : Text) : Decidable (IsTagName name) :=
  decidable_of_iff (name.head?.any isTagStart = true ∧ '[' ∉ name ∧ ']' ∉ name)
    ⟨fun h => ⟨h.1, h.2.1, h.2.2⟩, fun h => ⟨h.starts, h.not_open, h.not_close⟩⟩

theorem closes_append {t u : Text} (hu : closes u = false) : closes (t ++ u) = closes t := by
  induction t with
  | nil => exact hu
  | cons c t ih => simp only [List.cons_append, closes, ih]

theorem opensTag_of_closes {t : Text} (h : closes t = false) : opensTag t = false := by
  cases t with
  | nil => rfl
  | cons c t =>
    simp only [closes] at h
    split at h
    · cases h
    · split at h
      · next hc => rw [opensTag, hc]; rfl
      · rw [opensTag, h, Bool.and_false]

theorem opensTag_append {t u : Text} (hu : closes u = false) : opensTag (t ++ u) = opensTag t := by
  cases t with
  | nil => exact opensTag_of_closes hu
  | cons c t => simp only [List.cons_append, opensTag, closes_append hu]

theorem Text.Inert.closes_append {t : Text} (h : t.Inert) (u : Text) :
    closes (t ++ u) = closes u := by
  induction t with
  | nil => rfl
  | cons c t ih =>
    obtain ⟨hc, ht⟩ := List.forall_mem_cons.mp h
    simp only [List.cons_append, closes, if_neg hc.1, if_neg hc.2.1]
    exact ih ht

theorem Text.Inert.runBehind_zero {t : Text} (h : t.Inert) : runBehind 0 t = 0 := by
  induction t with
  | nil => rfl
  | cons c t ih =>
    obtain ⟨hc, ht⟩ := List.forall_mem_cons.mp h
    rw [runBehind_cons, runAfter_of_ne hc.2.2, ih ht]

namespace IsTagName

variable {name : Text}

theorem closes_append (h : '[' ∉ name) (u : Text) : closes (name ++ ']' :: u) = true := by
  induction name with
  | nil => rfl
  | cons c name ih =>
    rw [List.mem_cons, not_or] at h
    simp only [List.cons_append, closes, if_neg (Ne.symm h.1), ih h.2]
    split <;> rfl

theorem opensTag_append (h : IsTagName name) (u : Text) : opensTag (name ++ ']' :: u) = true := by
  cases name with
  | nil => cases h.starts
  | cons c name =>
    have hname : '[' ∉ name := fun hm => h.not_open (List.mem_cons_of_mem c hm)
    have hc : isTagStart c = true := h.starts
    rw [List.cons_append, opensTag, hc, closes_append hname]
    rfl

theorem takeWhile_append (h : IsTagName name) (u : Text) :
    (name ++ ']' :: u).takeWhile (· ≠ ']') = name := by
  have hname : ∀ c ∈ name, decide (c ≠ ']') = true := by
    intro c hc
    simp only [decide_eq_true_eq]
    rintro rfl
    exact h.not_close hc
  rw [List.takeWhile_append_of_pos hname, List.takeWhile_cons_of_neg (by simp), List.append_nil]

end IsTagName

theorem activeTagsBehind_append {t : Text} (h : '[' ∉ t) (place run : Nat) (u : Text) :
    activeTagsBehind place run (t ++ u) =
      activeTagsBehind (place + t.length) (runBehind run t) u := by
  induction t generalizing place run with
  | nil => rfl
  | cons c t ih =>
    rw [List.mem_cons, not_or] at h
    rw [List.cons_append, activeTagsBehind, if_neg fun hc => h.1 hc.1.symm, List.nil_append, ih h.2,
      runBehind_cons, List.length_cons]
    congr 1
    omega

/-- A tag is obeyed exactly behind an even number of backslashes. -/
theorem activeTagsBehind_tag {name : Text} (h : IsTagName name) (place run : Nat) (u : Text) :
    activeTagsBehind place run ('[' :: (name ++ ']' :: u)) =
      (if run % 2 = 0 then [(place, name)] else []) ++
        activeTagsBehind (place + name.length + 2) 0 u := by
  have hclosed : '[' ∉ name ++ [']'] := by
    simpa using h.not_open
  have hrun : runBehind (runAfter run '[') (name ++ [']']) = 0 := by
    rw [runBehind_append]
    rfl
  have hrest : name ++ ']' :: u = (name ++ [']']) ++ u := by simp
  rw [activeTagsBehind, h.opensTag_append, h.takeWhile_append, hrest,
    activeTagsBehind_append hclosed, hrun, List.length_append]
  congr 2
  · simp
  · simp only [List.length_singleton]; omega

def escapedRun (run : Nat) : Nat := if run = 1 then 2 else run

theorem activeTagsBehind_escapeBehind {u : Text} (hu : closes u = false) (place run : Nat)
    (t : Text) :
    activeTagsBehind place run (escapeBehind run t ++ u) =
      activeTagsBehind (place + (escapeBehind run t).length)
        (escapedRun (runBehind run t)) u := by
  induction t generalizing place run with
  | nil =>
    rw [escapeBehind, runBehind, List.foldl_nil, escapedRun]
    split
    · next hrun =>
      subst hrun
      exact activeTagsBehind_append (by decide) place 1 u
    · rfl
  | cons c t ih =>
    rw [escapeBehind, runBehind_cons]
    by_cases hb : c = '\\'
    · subst hb
      rw [if_pos rfl, List.cons_append, activeTagsBehind, if_neg (by simp), List.nil_append,
        List.length_cons, ← Nat.add_assoc, Nat.add_right_comm]
      exact ih (place + 1) (run + 1)
    · rw [if_neg hb, runAfter_of_ne hb]
      by_cases htag : c = '[' ∧ opensTag t
      · obtain ⟨rfl, htag⟩ := htag
        have hodd : ¬(run + (run + 1)) % 2 = 0 := by omega
        rw [if_pos ⟨rfl, htag⟩, List.append_assoc, List.cons_append,
          activeTagsBehind_append (by simp), runBehind_backslashes, activeTagsBehind,
          if_neg fun h => hodd h.2.2, List.nil_append, runAfter_of_ne hb, ih, List.length_append,
          List.length_cons, List.length_replicate]
        congr 1
        omega
      · have hstill : ¬(c = '[' ∧ opensTag (escapeBehind 0 t ++ u) ∧ run % 2 = 0) := by
          rw [opensTag_append hu, opensTag_escapeBehind]
          exact fun h => htag ⟨h.1, h.2.1⟩
        rw [if_neg htag, List.cons_append, activeTagsBehind, if_neg hstill, List.nil_append,
          runAfter_of_ne hb, ih, List.length_cons]
        congr 1
        omega

/-- The backslashes at the end of a text disable a tag that follows its escaped form. -/
def DisablesTag (t : Text) : Prop := runBehind 0 t % 2 = 1 ∧ runBehind 0 t ≠ 1

instance (t : Text) : Decidable (DisablesTag t) := inferInstanceAs (Decidable (_ ∧ _))

theorem disablesTag_iff (t : Text) :
    DisablesTag t ↔ ¬escapedRun (runBehind 0 t) % 2 = 0 := by
  simp only [DisablesTag, escapedRun]
  split <;> omega

def Piece.tagAt (place : Nat) : Piece → List (Nat × Text)
  | tag name => [(place, name)]
  | literal _ => []
  | shown _ => []

/-- A piece that does not depend on a record or a query, with a proper name if it is a tag. -/
def Piece.Fixed : Piece → Prop
  | tag name => IsTagName name
  | literal t => t.Inert
  | shown _ => False

instance : ∀ piece : Piece, Decidable piece.Fixed
  | .tag name => inferInstanceAs (Decidable (IsTagName name))
  | .literal t => inferInstanceAs (Decidable t.Inert)
  | .shown _ => inferInstanceAs (Decidable False)

namespace Markup

def tagsFrom (place : Nat) : Markup → List (Nat × Text)
  | [] => []
  | piece :: m => piece.tagAt place ++ tagsFrom (place + piece.render.length) m

def tags (m : Markup) : List (Nat × Text) := m.tagsFrom 0

/-- The terminal obeys the tags that the string is written with, each in its place, and no other. -/
def AsWritten (m : Markup) : Prop := activeTags m.render = m.tags

variable {front back m : Markup}

instance (m : Markup) : Decidable m.AsWritten :=
  inferInstanceAs (Decidable (activeTags m.render = m.tags))

theorem AsWritten.sublist (h : m.AsWritten) : (activeTags m.render).Sublist m.tags :=
  h.symm ▸ List.Sublist.refl m.tags

theorem tagsFrom_append (place : Nat) (m m' : Markup) :
    (m ++ m').tagsFrom place = m.tagsFrom place ++ m'.tagsFrom (place + m.render.length) := by
  induction m generalizing place with
  | nil => rfl
  | cons piece m ih =>
    rw [List.cons_append, tagsFrom, tagsFrom, ih, render_cons, List.length_append,
      List.append_assoc, Nat.add_assoc]

theorem activeTagsBehind_render (h : ∀ piece ∈ m, piece.Fixed) (place : Nat) (u : Text) :
    activeTagsBehind place 0 (m.render ++ u) =
      m.tagsFrom place ++ activeTagsBehind (place + m.render.length) 0 u := by
  induction m generalizing place with
  | nil => rfl
  | cons piece m ih =>
    obtain ⟨hpiece, hm⟩ := List.forall_mem_cons.mp h
    rw [render_cons, List.append_assoc, tagsFrom, List.length_append, List.append_assoc,
      ← Nat.add_assoc, ← ih hm]
    cases piece with
    | tag name =>
      have hlength : (Piece.tag name).render.length = name.length + 2 := by
        simp [Piece.render]
      have hrender : (Piece.tag name).render ++ (render m ++ u) =
          '[' :: (name ++ ']' :: (render m ++ u)) := by
        simp [Piece.render]
      rw [hrender, activeTagsBehind_tag hpiece, hlength, ← Nat.add_assoc]
      rfl
    | literal t =>
      have hopen : '[' ∉ t := fun hc => (hpiece _ hc).1 rfl
      have hrun : runBehind 0 t = 0 := Text.Inert.runBehind_zero hpiece
      rw [Piece.render, activeTagsBehind_append hopen, hrun]
      rfl
    | shown t => exact hpiece.elim

theorem closes_render (h : ∀ piece ∈ m, piece.Fixed) : closes m.render = false := by
  induction m with
  | nil => rfl
  | cons piece m ih =>
    obtain ⟨hpiece, hm⟩ := List.forall_mem_cons.mp h
    rw [render_cons]
    cases piece with
    | tag name => rfl
    | literal t => exact (Text.Inert.closes_append hpiece _).trans (ih hm)
    | shown t => exact hpiece.elim

theorem AsWritten.of_fixed (h : ∀ piece ∈ m, piece.Fixed) : m.AsWritten := by
  have hm := activeTagsBehind_render h 0 []
  rwa [List.append_nil, activeTagsBehind, List.append_nil] at hm

/-- Behind a shown text the scan goes on with the run of backslashes that its escaped form ends in. -/
theorem activeTags_shown (hfront : ∀ piece ∈ front, piece.Fixed)
    (hback : ∀ piece ∈ back, piece.Fixed) (t : Text) :
    activeTags (render (front ++ .shown t :: back)) = front.tags ++
      activeTagsBehind (front.render.length + (escape t).length)
        (escapedRun (runBehind 0 t)) back.render := by
  have hshown := activeTagsBehind_escapeBehind (closes_render hback) front.render.length 0 t
  rw [render_append, render_cons, activeTags, activeTagsBehind_render hfront, Nat.zero_add]
  exact congrArg (front.tags ++ ·) hshown

theorem tags_shown (front back : Markup) (t : Text) :
    tags (front ++ .shown t :: back) =
      front.tags ++ back.tagsFrom (front.render.length + (escape t).length) := by
  rw [tags, tagsFrom_append, Nat.zero_add]
  rfl

theorem AsWritten.shown (hfront : ∀ piece ∈ front, piece.Fixed) (t : Text) :
    AsWritten (front ++ [.shown t]) := by
  rw [AsWritten, activeTags_shown hfront (List.forall_mem_nil _), tags_shown]
  rfl

/-- A literal behind a shown text ends its run of backslashes. -/
theorem AsWritten.shown_literal {c : Char} {literal : Text}
    (hfront : ∀ piece ∈ front, piece.Fixed)
    (hback : ∀ piece ∈ Piece.literal (c :: literal) :: back, piece.Fixed) (t : Text) :
    AsWritten (front ++ .shown t :: .literal (c :: literal) :: back) := by
  obtain ⟨hliteral, hrest⟩ := List.forall_mem_cons.mp hback
  have hopen : '[' ∉ c :: literal := fun hc => (hliteral _ hc).1 rfl
  obtain ⟨hc, hinert⟩ := List.forall_mem_cons.mp hliteral
  have hrun (run : Nat) : runBehind run (c :: literal) = 0 := by
    rw [runBehind_cons, runAfter_of_ne hc.2.2, Text.Inert.runBehind_zero hinert]
  have hend := activeTagsBehind_render hrest
    (front.render.length + (escape t).length + (c :: literal).length) []
  rw [List.append_nil, activeTagsBehind, List.append_nil] at hend
  rw [AsWritten, activeTags_shown hfront hback, tags_shown, render_cons, Piece.render,
    activeTagsBehind_append hopen, hrun, hend]
  rfl

theorem asWritten_shown_tag_iff {name : Text} (hfront : ∀ piece ∈ front, piece.Fixed)
    (hname : IsTagName name) (t : Text) :
    AsWritten (front ++ [.shown t, .tag name]) ↔ ¬DisablesTag t := by
  have hback : ∀ piece ∈ [Piece.tag name], piece.Fixed := List.forall_mem_singleton.mpr hname
  have hrender : render [Piece.tag name] = '[' :: (name ++ ']' :: []) := by
    simp [render, Piece.render]
  rw [AsWritten, activeTags_shown hfront hback, tags_shown, hrender, activeTagsBehind_tag hname,
    List.append_cancel_left_eq, activeTagsBehind, List.append_nil, disablesTag_iff, not_not]
  split
  · next heven => exact iff_of_true rfl heven
  · next hodd => exact iff_of_false (List.cons_ne_nil _ _).symm hodd

theorem sublist_tags_shown_tag {name : Text} (hfront : ∀ piece ∈ front, piece.Fixed)
    (hname : IsTagName name) (t : Text) :
    (activeTags (render (front ++ [.shown t, .tag name]))).Sublist
      (tags (front ++ [.shown t, .tag name])) := by
  have hback : ∀ piece ∈ [Piece.tag name], piece.Fixed := List.forall_mem_singleton.mpr hname
  have hrender : render [Piece.tag name] = '[' :: (name ++ ']' :: []) := by
    simp [render, Piece.render]
  rw [activeTags_shown hfront hback, tags_shown, hrender, activeTagsBehind_tag hname,
    activeTagsBehind, List.append_nil]
  split
  · exact List.Sublist.refl _
  · exact (List.nil_sublist _).append_left _

end Markup

end Stockroom
