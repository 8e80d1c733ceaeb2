import Stockroom.Catalog.Search
import Stockroom.Proofs.Catalog.Keys

/-! # The top of a ranking

A search shows the ranking of the records that match its query, cut at the limit. Whatever the limit
is, what is shown and what is left out make up the matching records, and nothing that is left out
comes before anything that is shown.
-/
namespace Stockroom

variable {α κ : Type} [LinearOrder κ]

/-- What is shown, at every limit, of the matching records ranked by a key. -/
structure ShowsTop (key : α → κ) (d : Direction) (found : List α)
    (search : Option Int → Except NegativeLimit (List α)) : Prop where
  /-- A limit cuts the only ranking there is; no limit and the limit zero leave it whole. -/
  cut : ∃ ranking, Ranked key d found ranking ∧
    (∀ other, Ranked key d found other → other = ranking) ∧
    search none = .ok ranking ∧ search (some 0) = .ok ranking ∧
    ∀ k : Nat, 0 < k → search (some k) = .ok (ranking.take (min k found.length))
  /-- A limit shows a beginning of what a longer one shows, zero being the longest. -/
  shorter : ∀ k l : Nat, 0 < k → k ≤ l ∨ l = 0 → ∃ shown more,
    search (some k) = .ok shown ∧ search (some l) = .ok more ∧ shown <+: more
  /-- No record is lost, doubled or made up, and none left out has a better key than one shown. -/
  best : ∀ limit shown, search limit = .ok shown → ∃ omitted, (shown ++ omitted).Perm found ∧
    ∀ a ∈ shown, ∀ b ∈ omitted, ¬d.Before (key b) (key a)
  refused : ∀ k : Int, k < 0 → search (some k) = .error ⟨k⟩

section Cut

variable {ranking shown : List α}

theorem cutAt_natCast {k : Nat} (hk : 0 < k) (ranking : List α) :
    cutAt (some (k : Int)) ranking = .ok (ranking.take k) := by
  cases k with
  | zero => exact absurd hk (Nat.lt_irrefl 0)
  | succ k => rfl

theorem cutAt_neg {k : Int} (hk : k < 0) (ranking : List α) :
    cutAt (some k) ranking = .error ⟨k⟩ := by
  cases k with
  | ofNat k => exact absurd hk (Int.not_lt.mpr (Int.natCast_nonneg k))
  | negSucc k => rfl

theorem prefix_of_cutAt {limit : Option Int} (h : cutAt limit ranking = .ok shown) :
    shown <+: ranking := by
  rw [cutAt.eq_def] at h
  split at h
  · cases h
    exact List.prefix_refl _
  · cases h
    exact List.prefix_refl _
  · cases h
    exact List.take_prefix _ _
  · cases h

variable {key : α → κ} {d : Direction} {found : List α}

theorem Ranked.exists_omitted (h : Ranked key d found ranking) (hs : shown <+: ranking) :
    ∃ omitted, (shown ++ omitted).Perm found ∧
      ∀ a ∈ shown, ∀ b ∈ omitted, ¬d.Before (key b) (key a) := by
  obtain ⟨omitted, rfl⟩ := hs
  exact ⟨omitted, h.perm, (List.pairwise_append.mp h.ordered).2.2⟩

theorem Ranked.showsTop (h : Ranked key d found ranking) :
    ShowsTop key d found fun limit => cutAt limit ranking where
  cut := by
    refine ⟨ranking, h, fun other ho => ho.unique h, rfl, rfl, fun k hk => ?_⟩
    rw [cutAt_natCast hk, ← h.perm.length_eq, ← List.take_eq_take_min]
  shorter k l hk hkl := by
    refine ⟨ranking.take k, ?_⟩
    rcases hkl with hkl | rfl
    · exact ⟨ranking.take l, cutAt_natCast hk ranking, cutAt_natCast (Nat.lt_of_lt_of_le hk hkl) ranking,
        List.take_prefix_take_left hkl⟩
    · exact ⟨ranking, cutAt_natCast hk ranking, rfl, List.take_prefix k ranking⟩
  best _ _ hs := h.exists_omitted (prefix_of_cutAt hs)
  refused _ hk := cutAt_neg hk ranking

end Cut

/-- A search for items shows the top of the matching items by the key of the option, in either
direction, and a search in the history the top of the matching entries by falling instant. -/
theorem search_shows_top :
    (∀ (catalog : Catalog) (query : Text) (option : SortOption) (direction : Direction),
      ShowsTop option.key direction
        (catalog.items.filter fun item => (Record.item item).matchesText query)
        (catalog.searchItems query option direction)) ∧
    (∀ (catalog : Catalog) (query : Text),
      ShowsTop (fun entry : Entry => (entry.timestamp.getD .start).assumingUtc.instant) .descending
        (catalog.history.filter fun entry => (Record.entry entry).matchesText query)
        (catalog.searchHistory query)) := by
  constructor
  · intro catalog query option direction
    exact (sortItems_ranked option direction (keepItems query catalog.items)).showsTop
  · intro catalog query
    have hkey : (fun entry : Entry => (entry.timestamp.getD .start).assumingUtc.instant) =
        Entry.instant := funext fun entry => entry.instant_eq.symm
    rw [hkey]
    exact (newestFirst_ranked (keepEntries query catalog.history)).showsTop

end Stockroom
