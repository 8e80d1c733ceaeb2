import Stockroom.Settings.Location
import Stockroom.Proofs.Settings.Place
import Mathlib.Data.List.Infix

/-! # The root of a project

The root that is found from a starting point is the nearest marked path at or above it, and the point
itself where no path up to the root directory is marked. There is only one such path. So the root is
found again from itself, and every starting point below a marked directory with no marker in between
finds that directory.
-/
namespace Stockroom

namespace Path

def AtOrAbove (a p : Path) : Prop := a.start = p.start ∧ a.names <+: p.names

variable {a b p : Path}

theorem AtOrAbove.refl (p : Path) : p.AtOrAbove p := ⟨rfl, List.prefix_rfl⟩

theorem AtOrAbove.antisymm (h : a.AtOrAbove b) (h' : b.AtOrAbove a) : a = b := by
  obtain ⟨start, names⟩ := a
  obtain ⟨start', names'⟩ := b
  have hs : start = start' := h.1
  have hn : names = names' := h.2.eq_of_length_le h'.2.length_le
  rw [hs, hn]

/-- A path strictly above another is shorter. -/
theorem AtOrAbove.length_lt (h : a.AtOrAbove b) (hne : b ≠ a) : a.names.length < b.names.length := by
  by_contra hle
  have hn : a.names = b.names := h.2.eq_of_length_le (by omega)
  exact hne (AtOrAbove.antisymm ⟨h.1.symm, hn ▸ List.prefix_rfl⟩ h)

/-- Of two paths at or above a third one is at or above the other. -/
theorem AtOrAbove.total (h : a.AtOrAbove p) (h' : b.AtOrAbove p) :
    a.AtOrAbove b ∨ b.AtOrAbove a := by
  have hs : a.start = b.start := h.1.trans h'.1.symm
  rcases List.prefix_or_prefix_of_prefix h.2 h'.2 with hab | hba
  · exact .inl ⟨hs, hab⟩
  · exact .inr ⟨hs.symm, hba⟩

theorem IsPlace.of_atOrAbove (hp : p.IsPlace) (h : a.AtOrAbove p) : a.IsPlace :=
  ⟨h.1.trans hp.start, fun hm => hp.parent_not_mem (h.2.subset hm)⟩

theorem length_names_child (p : Path) (name : Text) :
    (p.child name).names.length = p.names.length + 1 := List.length_append

def ancestor (p : Path) (k : ℕ) : Path := ⟨p.start, p.names.take (p.names.length - k)⟩

theorem upwards_eq_map (p : Path) :
    p.upwards = (List.range (p.names.length + 1)).map p.ancestor := rfl

theorem ancestor_atOrAbove (p : Path) (k : ℕ) : (p.ancestor k).AtOrAbove p :=
  ⟨rfl, List.take_prefix _ _⟩

/-- A path at or above another is an ancestor of it, by so many names as it is shorter. -/
theorem AtOrAbove.eq_ancestor (h : a.AtOrAbove p) :
    a = p.ancestor (p.names.length - a.names.length) := by
  obtain ⟨start, names⟩ := a
  have hs : start = p.start := h.1
  have hl : names.length ≤ p.names.length := h.2.length_le
  have hn : names = p.names.take names.length := List.prefix_iff_eq_take.mp h.2
  rw [ancestor, ← hs, Nat.sub_sub_self hl, ← hn]

end Path

namespace Surroundings

variable {s : Surroundings} {point root : Path}

/-- The nearest marked path at or above a point, or the point itself if no path there is marked. -/
structure IsNearestMarked (s : Surroundings) (point root : Path) : Prop where
  atOrAbove : root.AtOrAbove point
  unmarked_below : ∀ d : Path, root.AtOrAbove d → d ≠ root → d.AtOrAbove point →
    s.isMarked d = false
  marked_or : s.isMarked root = true ∨
    root = point ∧ ∀ d : Path, d.AtOrAbove point → s.isMarked d = false

namespace IsNearestMarked

/-- Of two nearest marked paths, the upper one is the lower one. -/
private theorem eq_of_atOrAbove {root' : Path} (h : s.IsNearestMarked point root)
    (h' : s.IsNearestMarked point root') (hr : root.AtOrAbove root') : root = root' := by
  by_contra hne
  have hunmarked := h.unmarked_below root' hr (Ne.symm hne) h'.atOrAbove
  rcases h'.marked_or with hm | ⟨rfl, hnone⟩
  · rw [hunmarked] at hm
    cases hm
  · rcases h.marked_or with hm | ⟨rfl, _⟩
    · rw [hnone root h.atOrAbove] at hm
      cases hm
    · exact hne rfl

theorem unique {root' : Path} (h : s.IsNearestMarked point root)
    (h' : s.IsNearestMarked point root') : root = root' := by
  rcases h.atOrAbove.total h'.atOrAbove with hr | hr
  · exact eq_of_atOrAbove h h' hr
  · exact (eq_of_atOrAbove h' h hr).symm

/-- What is nearest from a point is nearest from itself. -/
theorem self (h : s.IsNearestMarked point root) : s.IsNearestMarked root root where
  atOrAbove := .refl root
  unmarked_below := by
    intro d hd hne hd'
    exact absurd (hd'.antisymm hd) hne
  marked_or := by
    rcases h.marked_or with hm | ⟨rfl, hnone⟩
    · exact .inl hm
    · exact .inr ⟨rfl, hnone⟩

end IsNearestMarked

/-- The search upwards ends at the nearest marked path. -/
theorem isNearestMarked_search (s : Surroundings) (point : Path) :
    s.IsNearestMarked point ((point.upwards.find? s.isMarked).getD point) := by
  rw [Path.upwards_eq_map, List.find?_map]
  cases hf : (List.range (point.names.length + 1)).find? (s.isMarked ∘ point.ancestor) with
  | none =>
    have hnone : ∀ d : Path, d.AtOrAbove point → s.isMarked d = false := by
      intro d hd
      have hd' := List.find?_range_eq_none.mp hf (point.names.length - d.names.length) (by omega)
      rw [Function.comp_apply, ← hd.eq_ancestor] at hd'
      simpa using hd'
    exact ⟨.refl point, fun d _ _ hd => hnone d hd, .inr ⟨rfl, hnone⟩⟩
  | some k =>
    obtain ⟨hm, hk, hbefore⟩ := List.find?_range_eq_some.mp hf
    rw [List.mem_range] at hk
    rw [Option.map_some, Option.getD_some]
    refine ⟨point.ancestor_atOrAbove k, ?_, .inl hm⟩
    intro d hkd hne hd
    have hlt := hkd.length_lt hne
    have hle := hd.2.length_le
    have hk' : (point.ancestor k).names.length = point.names.length - k := by simp [Path.ancestor]
    have hd' := hbefore (point.names.length - d.names.length) (by omega)
    rw [Function.comp_apply, ← hd.eq_ancestor] at hd'
    simpa using hd'

/-- The root is the nearest marked path from the resolved starting point. -/
theorem isNearestMarked_projectRoot (s : Surroundings) (start : Option Path) :
    s.IsNearestMarked (s.cwd.resolve (start.getD .here)) (s.projectRoot start) :=
  s.isNearestMarked_search _

theorem projectRoot_eq {start : Option Path}
    (h : s.IsNearestMarked (s.cwd.resolve (start.getD .here)) root) : s.projectRoot start = root :=
  (s.isNearestMarked_projectRoot start).unique h

/-- A root is a resolved path, and the search from it stays there. -/
theorem projectRoot_projectRoot (s : Surroundings) (start : Option Path) :
    s.projectRoot (some (s.projectRoot start)) = s.projectRoot start := by
  have h := s.isNearestMarked_projectRoot start
  have hplace : (s.projectRoot start).IsPlace :=
    (Path.isPlace_resolve _ _).of_atOrAbove h.atOrAbove
  apply projectRoot_eq
  rw [Option.getD_some, hplace.resolve_eq]
  exact h.self

end Surroundings

theorem Path.getD_given? (start : Option Text) :
    (Path.given? start).getD .here = Path.ofText (start.getD []) := by
  cases start with
  | none => rfl
  | some t => cases t <;> rfl

variable {s : Surroundings} {cwd : Text}

/-- What the parts of a starting point lead to is the point that the search starts from. -/
theorem Path.Leads.resolve_eq (hcwd : s.cwd = Path.ofText cwd) {start : Option Text}
    {place : List Text} (h : Path.Leads (Path.partsFrom cwd (start.getD [])) place) :
    s.cwd.resolve ((Path.given? start).getD .here) = ⟨.root, place⟩ := by
  have hplace := h.eq_foldl
  rw [← (Path.leads_resolve cwd (start.getD [])).eq_foldl] at hplace
  rw [hplace, hcwd, Path.getD_given?]
  rfl

/-- From whatever starting point, with whatever working directory and file system, the root is the
nearest marked path at or above the place that the starting point leads to, or that place where none
is marked. So the root of a root is itself, and all places below a marked directory with no marker in
between have that directory for their root. -/
theorem root_is_nearest_marked (s : Surroundings) (cwd : Text) (hcwd : s.cwd = Path.ofText cwd) :
    (∀ start : Option Text, ∃ place : List Text,
      Path.Leads (Path.partsFrom cwd (start.getD [])) place ∧
        s.IsNearestMarked ⟨.root, place⟩ (s.projectRoot (Path.given? start))) ∧
    (∀ d : Path, s.isMarked d = true ↔
      ∃ marker ∈ [".stockq", ".git", "pyproject.toml", "package.json"],
        s.present (d.child marker.toList) = true) ∧
    (∀ start : Option Path, s.projectRoot (some (s.projectRoot start)) = s.projectRoot start) ∧
    ∀ (start : Option Text) (place : List Text) (marked : Path),
      Path.Leads (Path.partsFrom cwd (start.getD [])) place → marked.AtOrAbove ⟨.root, place⟩ →
      s.isMarked marked = true →
      (∀ d : Path, marked.AtOrAbove d → d ≠ marked → d.AtOrAbove ⟨.root, place⟩ →
        s.isMarked d = false) →
      s.projectRoot (Path.given? start) = marked := by
  refine ⟨?nearest, ?markers, s.projectRoot_projectRoot, ?below⟩
  case nearest =>
    intro start
    have hl := Path.leads_resolve cwd (start.getD [])
    refine ⟨_, hl, ?_⟩
    rw [← hl.resolve_eq hcwd]
    exact s.isNearestMarked_projectRoot _
  case markers =>
    intro d
    have hmarkers : rootMarkers =
        [".stockq", ".git", "pyproject.toml", "package.json"].map String.toList := rfl
    rw [Surroundings.isMarked, hmarkers, List.any_map, List.any_eq_true]
    rfl
  case below =>
    intro start place marked hl habove hm hbetween
    apply Surroundings.projectRoot_eq
    rw [hl.resolve_eq hcwd]
    exact ⟨habove, hbetween, .inl hm⟩

def Surroundings.holding (cwd existing : Text) : Surroundings where
  cwd := .ofText cwd
  homeOf _ := some "/root".toList
  catalogOverride := none
  logLevelName := none
  present p := p = .ofText existing

/-- A start that leaves the working directory, three directories below the marked one. -/
theorem root_below_marked :
    Path.Leads (Path.partsFrom "/home/./x/y".toList "../a/b/..//c".toList)
      ["home".toList, "x".toList, "a".toList, "c".toList] ∧
    (Surroundings.holding "/home/./x/y".toList "/home/.git".toList).projectRoot
      (Path.given? (some "../a/b/..//c".toList)) = ⟨.root, ["home".toList]⟩ := by
  have hl : Path.Leads (Path.partsFrom "/home/./x/y".toList "../a/b/..//c".toList)
      ["home".toList, "x".toList, "a".toList, "c".toList] :=
    Path.leads_resolve "/home/./x/y".toList "../a/b/..//c".toList
  have habove : Path.AtOrAbove ⟨.root, ["home".toList]⟩
      ⟨.root, ["home".toList, "x".toList, "a".toList, "c".toList]⟩ := ⟨rfl, by decide⟩
  refine ⟨hl, (root_is_nearest_marked _ _ rfl).2.2.2 _ _ _ hl habove (by decide) ?_⟩
  intro d hd hne _
  have hlt := hd.length_lt hne
  rw [Surroundings.isMarked, List.any_eq_false]
  intro marker _ hp
  have hc : d.child marker = Path.ofText "/home/.git".toList := of_decide_eq_true hp
  have hlen : d.names.length + 1 = 2 := by
    calc d.names.length + 1 = (d.child marker).names.length := (d.length_names_child marker).symm
      _ = 2 := by
        rw [hc]
        decide
  rw [List.length_singleton] at hlt
  omega

end Stockroom
