import Stockroom.Settings.Path
import Mathlib.Data.List.Induction

/-! # The place of a path

Where a written path leads is said by a relation on its parts: an empty part and `.` stay, `..` goes
to the parent and from the root nowhere, and every other part goes into the directory of that name.
Every list of parts leads to exactly one place, and resolving a path that was read from text finds it.
A resolved path has no part that leads back, so resolving it again changes nothing. Only the home of a
user that is not known leads nowhere.
-/
namespace Stockroom.Path

/-- The parts of a path lead from the root to a place, given by the names on the way there. -/
inductive Leads : List Text → List Text → Prop
  | root : Leads [] []
  | stay {parts place : List Text} {part : Text} (h : Leads parts place)
      (hp : part = [] ∨ part = ['.']) : Leads (parts ++ [part]) place
  | up {parts place : List Text} {name : Text} (h : Leads parts (place ++ [name])) :
      Leads (parts ++ [['.', '.']]) place
  | top {parts : List Text} (h : Leads parts []) : Leads (parts ++ [['.', '.']]) []
  | down {parts place : List Text} {name : Text} (h : Leads parts place)
      (hn : name ∉ [[], ['.'], ['.', '.']]) : Leads (parts ++ [name]) (place ++ [name])

def isKept (part : Text) : Bool := !part.isEmpty && part ≠ ['.']

theorem names_ofText (t : Text) : (ofText t).names = (Text.cut '/' t).filter isKept := rfl

theorem isKept_eq_false_iff {part : Text} : isKept part = false ↔ part = [] ∨ part = ['.'] := by
  simp [isKept, or_iff_not_imp_left]

theorem follow_parent (names : List Text) : follow names ['.', '.'] = names.dropLast := if_pos rfl

theorem follow_name {name : Text} (h : name ≠ ['.', '.']) (names : List Text) :
    follow names name = names ++ [name] := if_neg h

/-- The only place that parts lead to is found by following the names among them. -/
theorem Leads.eq_foldl {parts place : List Text} (h : Leads parts place) :
    place = (parts.filter isKept).foldl follow [] := by
  induction h with
  | root => rfl
  | stay _ hp ih =>
    have hk := isKept_eq_false_iff.mpr hp
    simp [List.filter_append, hk, ← ih]
  | up _ ih =>
    have hk : isKept ['.', '.'] = true := by decide
    simp [List.filter_append, hk, ← ih, follow_parent]
  | top _ ih =>
    have hk : isKept ['.', '.'] = true := by decide
    simp [List.filter_append, hk, ← ih, follow_parent]
  | @down parts place name _ hn ih =>
    simp only [List.mem_cons, List.not_mem_nil, or_false, not_or] at hn
    have hk : isKept name = true := by simp [isKept, hn.1, hn.2.1]
    simp [List.filter_append, hk, ← ih, follow_name hn.2.2]

theorem leads_foldl (parts : List Text) : Leads parts ((parts.filter isKept).foldl follow []) := by
  induction parts using List.reverseRecOn with
  | nil => exact .root
  | append_singleton parts part ih =>
    cases hk : isKept part with
    | false =>
      have hs := Leads.stay ih (isKept_eq_false_iff.mp hk)
      simpa [List.filter_append, hk] using hs
    | true =>
      rw [List.filter_append, List.filter_cons_of_pos hk, List.filter_nil, List.foldl_append,
        List.foldl_cons, List.foldl_nil]
      by_cases hp : part = ['.', '.']
      · rw [hp, follow_parent]
        rcases List.eq_nil_or_concat ((parts.filter isKept).foldl follow []) with hn | ⟨place, name, hc⟩
        · rw [hn] at ih ⊢
          exact .top ih
        · rw [hc, List.concat_eq_append] at ih ⊢
          rw [List.dropLast_concat]
          exact .up ih
      · rw [follow_name hp]
        refine .down ih ?_
        intro hm
        simp only [List.mem_cons, List.not_mem_nil, or_false, hp] at hm
        rw [isKept_eq_false_iff.mpr hm] at hk
        cases hk

theorem foldl_follow_of_parent_not_mem {names : List Text} (h : ['.', '.'] ∉ names)
    (before : List Text) : names.foldl follow before = before ++ names := by
  induction names generalizing before with
  | nil => simp
  | cons name names ih =>
    rw [List.mem_cons, not_or] at h
    rw [List.foldl_cons, follow_name (Ne.symm h.1), ih h.2, List.append_assoc]
    rfl

theorem parent_not_mem_foldl_follow (names : List Text) {before : List Text}
    (h : ['.', '.'] ∉ before) : ['.', '.'] ∉ names.foldl follow before := by
  induction names generalizing before with
  | nil => exact h
  | cons name names ih =>
    apply ih
    by_cases hn : name = ['.', '.']
    · rw [hn, follow_parent]
      exact fun hm => h (List.dropLast_subset before hm)
    · rw [follow_name hn, List.mem_append, List.mem_singleton, not_or]
      exact ⟨h, Ne.symm hn⟩

/-- An absolute path on which no name leads back. -/
structure IsPlace (p : Path) : Prop where
  start : p.start = .root
  parent_not_mem : ['.', '.'] ∉ p.names

theorem isPlace_resolve (cwd p : Path) : (resolve cwd p).IsPlace :=
  ⟨rfl, parent_not_mem_foldl_follow _ List.not_mem_nil⟩

theorem IsPlace.resolve_eq {p : Path} (h : p.IsPlace) (cwd : Path) : resolve cwd p = p := by
  have hr : p.isRelative = false := by simp [isRelative, h.start]
  rw [resolve, hr, if_neg Bool.false_ne_true, List.nil_append,
    foldl_follow_of_parent_not_mem h.parent_not_mem, List.nil_append, ← h.start]

/-- The parts of a path as it is written, counted from the root: behind a slash its own, else behind
those of the working directory. -/
def partsFrom (cwd t : Text) : List Text :=
  (if t.head? = some '/' then [] else Text.cut '/' cwd) ++ Text.cut '/' t

theorem isRelative_ofText (t : Text) : (ofText t).isRelative = decide (t.head? ≠ some '/') := by
  cases t with
  | nil => rfl
  | cons c rest =>
    by_cases hc : c = '/'
    · have hl : (c :: rest).takeWhile (· = '/') = c :: rest.takeWhile (· = '/') :=
        List.takeWhile_cons_of_pos (by simpa using hc)
      rw [isRelative, ofText, Start.ofText, hl, List.length_cons]
      split <;> simp_all
    · simp [ofText, isRelative, Start.ofText, hc]

/-- Resolving a path read from text finds the place that its parts lead to. -/
theorem leads_resolve (cwd t : Text) :
    Leads (partsFrom cwd t) (resolve (ofText cwd) (ofText t)).names := by
  have h := leads_foldl (partsFrom cwd t)
  rw [partsFrom, List.filter_append, ← names_ofText] at h
  rw [partsFrom, resolve, isRelative_ofText]
  by_cases ht : t.head? = some '/'
  · rw [if_pos ht] at h ⊢
    rw [if_neg (by simpa using ht)]
    exact h
  · rw [if_neg ht, ← names_ofText] at h
    rw [if_neg ht, if_pos (by simpa using ht)]
    exact h

/-- The path starts in a home, and the home is not known or is itself written as one. -/
def HasUnknownHome (homeOf : Text → Option Text) (p : Path) : Prop :=
  p.isRelative = true ∧ ∃ user names, p.names = ('~' :: user) :: names ∧
    ∀ home ∈ homeOf user, home.head? = some '~'

theorem expandHome_eq_none_iff {homeOf : Text → Option Text} {p : Path} :
    p.expandHome homeOf = none ↔ p.HasUnknownHome homeOf := by
  rw [expandHome]
  split
  · next user names hstart hnames =>
    have hunknown : p.HasUnknownHome homeOf ↔ ∀ home ∈ homeOf user, home.head? = some '~' := by
      simp [HasUnknownHome, isRelative, hstart, hnames]
    rw [hunknown]
    split
    · next hnone => simp [hnone]
    · next hhome => simp [hhome]
    · next home hwritten hhome =>
      have hhead : home.head? ≠ some '~' := by
        intro hc
        obtain ⟨rest, hrest⟩ := List.head?_eq_some_iff.mp hc
        exact hwritten rest hrest
      simp [hhome, hhead]
  · next hother =>
    refine iff_of_false (Option.some_ne_none p) ?_
    rintro ⟨hrelative, user, names, hnames, -⟩
    exact hother user names (of_decide_eq_true hrelative) hnames
end Stockroom.Path
