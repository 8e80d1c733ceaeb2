import Stockroom.Proofs.Catalog.Keys
import Stockroom.Proofs.Query.Conjunction

/-! # Keeping and ordering, step by step

A list of records is worked through in steps: a step keeps the records that match a query, or brings
the records into an order. Every order is a ranking, so a record that a later step drops might as
well have been dropped before, and a run of steps comes to keeping first and ordering afterwards.
-/
namespace Stockroom

inductive ListStep (ω : Type)
  | keep (query : Text)
  | arrange (order : ω)

namespace ListStep

variable {α ω : Type}

def isArrange : ListStep ω → Bool
  | keep _ => false
  | arrange _ => true

def apply (kept : Text → List α → List α) (arranged : ω → List α → List α) :
    ListStep ω → List α → List α
  | keep query, records => kept query records
  | arrange order, records => arranged order records

def run (kept : Text → List α → List α) (arranged : ω → List α → List α)
    (steps : List (ListStep ω)) (records : List α) : List α :=
  steps.foldl (fun rs step => step.apply kept arranged rs) records

def admits (passes : Text → α → Bool) (x : α) : ListStep ω → Bool
  | keep query => passes query x
  | arrange _ => true

section Run

variable {kept : Text → List α → List α} {arranged : ω → List α → List α}
  {passes : Text → α → Bool}
variable (hk : ∀ query xs, kept query xs = xs.filter (passes query))
  (ha : ∀ order (p : α → Bool) xs, (arranged order xs).filter p = arranged order (xs.filter p))

include hk ha in
/-- The orders of a run may be left to the end, behind one pass that drops what any step drops. -/
theorem run_eq_run_filter (steps : List (ListStep ω)) (records : List α) :
    run kept arranged steps records =
      run kept arranged (steps.filter isArrange)
        (records.filter fun x => steps.all (admits passes x)) := by
  induction steps generalizing records with
  | nil => simp [run]
  | cons step steps ih =>
    have hstep : run kept arranged (step :: steps) records =
        run kept arranged steps (step.apply kept arranged records) := rfl
    rw [hstep, ih]
    cases step with
    | keep query =>
      have hboth : (records.filter (passes query)).filter (fun x => steps.all (admits passes x)) =
          records.filter fun x => (keep query :: steps).all (admits passes x) := by
        rw [List.filter_filter]
        refine List.filter_congr fun x _ => ?_
        rw [List.all_cons, admits, Bool.and_comm]
      rw [apply, hk, hboth, List.filter_cons_of_neg (by simp [isArrange])]
    | arrange order =>
      rw [apply, ha, List.filter_cons_of_pos (by rfl)]
      rfl

include hk ha in
/-- Runs with the same orders that drop the same records come to the same. -/
theorem run_congr {steps others : List (ListStep ω)}
    (horders : others.filter isArrange = steps.filter isArrange)
    (hpass : ∀ x, others.all (admits passes x) = steps.all (admits passes x)) (records : List α) :
    run kept arranged steps records = run kept arranged others records := by
  rw [run_eq_run_filter hk ha, run_eq_run_filter hk ha others, horders]
  simp only [hpass]

include hk ha in
/-- A run comes to keeping by its queries, in any order and any number of times each, and then to
its orders in their order. -/
theorem run_eq_run_keep_append {steps : List (ListStep ω)} {queries : List Text}
    (hq : ∀ query, query ∈ queries ↔ keep query ∈ steps) (records : List α) :
    run kept arranged steps records =
      run kept arranged (queries.map keep ++ steps.filter isArrange) records := by
  have horders : (queries.map keep ++ steps.filter isArrange).filter isArrange =
      steps.filter isArrange := by
    have hnone : (queries.map keep).filter isArrange = ([] : List (ListStep ω)) := by
      refine List.filter_eq_nil_iff.mpr fun step hstep => ?_
      obtain ⟨query, _, rfl⟩ := List.mem_map.mp hstep
      exact Bool.false_ne_true
    rw [List.filter_append, hnone, List.nil_append, List.filter_filter]
    simp only [Bool.and_self]
  have hpass : ∀ x, (queries.map keep ++ steps.filter isArrange).all (admits passes x) =
      steps.all (admits passes x) := by
    intro x
    rw [Bool.eq_iff_iff, List.all_eq_true, List.all_eq_true]
    constructor
    · rintro h (query | order) hs
      · exact h _ (List.mem_append_left _ (List.mem_map_of_mem ((hq query).mpr hs)))
      · rfl
    · intro h step hs
      rcases List.mem_append.mp hs with hs | hs
      · obtain ⟨query, hmem, rfl⟩ := List.mem_map.mp hs
        exact h _ ((hq query).mp hmem)
      · exact h _ (List.mem_filter.mp hs).1
  exact run_congr hk ha horders hpass records

include hk ha in
theorem run_eq_run_filter_append (steps : List (ListStep ω)) (records : List α) :
    run kept arranged steps records =
      run kept arranged (steps.filter (fun step => !step.isArrange) ++ steps.filter isArrange)
        records := by
  have horders : (steps.filter (fun step => !step.isArrange) ++ steps.filter isArrange).filter
      isArrange = steps.filter isArrange := by
    rw [List.filter_append, List.filter_filter, List.filter_filter]
    simp only [Bool.and_not_self, List.filter_false, List.nil_append, Bool.and_self]
  have hpass : ∀ x, (steps.filter (fun step => !step.isArrange) ++ steps.filter isArrange).all
      (admits passes x) = steps.all (admits passes x) := by
    intro x
    rw [Bool.eq_iff_iff, List.all_eq_true, List.all_eq_true]
    refine forall_congr' fun step => imp_congr_left ?_
    cases h : step.isArrange with
    | false => simp [List.mem_filter, h]
    | true => simp [List.mem_filter, h]
  exact run_congr hk ha horders hpass records

end Run

theorem run_append (kept : Text → List α → List α) (arranged : ω → List α → List α)
    (before behind : List (ListStep ω)) (records : List α) :
    run kept arranged (before ++ behind) records =
      run kept arranged behind (run kept arranged before records) :=
  List.foldl_append

end ListStep

/-- Items dropped behind an order might as well be dropped before it. -/
theorem filter_sortItems (option : SortOption) (direction : Direction) (p : Item → Bool)
    (items : List Item) :
    (sortItems option direction items).filter p = sortItems option direction (items.filter p) :=
  ((sortItems_ranked option direction items).filter p).unique (sortItems_ranked option direction _)

theorem filter_newestFirst (p : Entry → Bool) (entries : List Entry) :
    (newestFirst entries).filter p = newestFirst (entries.filter p) :=
  ((newestFirst_ranked entries).filter p).unique (newestFirst_ranked _)

/-- The items behind steps that keep by queries and sort by options. -/
def itemsBehind : List (ListStep (SortOption × Direction)) → List Item → List Item :=
  ListStep.run keepItems fun order => sortItems order.1 order.2

def entriesBehind : List (ListStep Unit) → List Entry → List Entry :=
  ListStep.run keepEntries fun _ => newestFirst

/-- A run of steps gives the list that comes of keeping by its queries first, in any order and any
number of times each, and ordering afterwards. Keeping by one query and then by another is keeping
by both, joined by a space, if the scan of the first ends at rest. -/
theorem keeping_independent_of_ordering :
    (∀ (steps : List (ListStep (SortOption × Direction))) (queries : List Text),
      (∀ query, query ∈ queries ↔ .keep query ∈ steps) → ∀ items : List Item,
        itemsBehind steps items =
          itemsBehind (queries.map .keep ++ steps.filter ListStep.isArrange) items) ∧
    (∀ (steps : List (ListStep Unit)) (queries : List Text),
      (∀ query, query ∈ queries ↔ .keep query ∈ steps) → ∀ entries : List Entry,
        entriesBehind steps entries =
          entriesBehind (queries.map .keep ++ steps.filter ListStep.isArrange) entries) ∧
    ∀ a b : Text, Scan.rest.run a = Scan.rest →
      (∀ items, keepItems b (keepItems a items) = keepItems (a ++ ' ' :: b) items) ∧
      ∀ entries, keepEntries b (keepEntries a entries) = keepEntries (a ++ ' ' :: b) entries := by
  refine ⟨fun steps queries hq items => ?_, fun steps queries hq entries => ?_, fun a b ha => ?_⟩
  · exact ListStep.run_eq_run_keep_append (fun _ _ => rfl)
      (fun order p xs => filter_sortItems order.1 order.2 p xs) hq items
  · exact ListStep.run_eq_run_keep_append (fun _ _ => rfl) (fun _ p xs => filter_newestFirst p xs) hq
      entries
  · exact ⟨fun items => (keepItems_append ha b items).symm,
      fun entries => (keepEntries_append ha b entries).symm⟩

def ListStep.twoSorts : List (ListStep (SortOption × Direction)) :=
  [.arrange (.stock, .descending), .keep "sony".toList, .arrange (.name, .ascending),
    .keep "9v".toList, .keep "sony".toList]

def ListStep.newestBetween : List (ListStep Unit) :=
  [.keep "sale".toList, .arrange (), .keep "sale".toList]

/-- The laws at these steps, and at two queries of which the first has a parenthesis in quotes. -/
theorem keeping_between_two_sorts :
    (∀ query, query ∈ ["9v".toList, "sony".toList] ↔ .keep query ∈ ListStep.twoSorts) ∧
    (∀ items : List Item, itemsBehind ListStep.twoSorts items =
      itemsBehind [.keep "9v".toList, .keep "sony".toList, .arrange (.stock, .descending),
        .arrange (.name, .ascending)] items) ∧
    (∀ query, query ∈ ["sale".toList] ↔ .keep query ∈ ListStep.newestBetween) ∧
    (∀ entries : List Entry, entriesBehind ListStep.newestBetween entries =
      entriesBehind [.keep "sale".toList, .arrange ()] entries) ∧
    Scan.rest.run "sony \"(\"".toList = Scan.rest ∧
    ∀ items, keepItems "9v".toList (keepItems "sony \"(\"".toList items) =
      keepItems ("sony \"(\"".toList ++ ' ' :: "9v".toList) items := by
  have hq : ∀ query, query ∈ ["9v".toList, "sony".toList] ↔ .keep query ∈ ListStep.twoSorts := by
    intro query
    simp only [ListStep.twoSorts, List.mem_cons, List.not_mem_nil, ListStep.keep.injEq, reduceCtorEq]
    tauto
  have hs : ∀ query, query ∈ ["sale".toList] ↔ .keep query ∈ ListStep.newestBetween := by
    intro query
    simp [ListStep.newestBetween]
  have ha : Scan.rest.run "sony \"(\"".toList = Scan.rest := by decide
  exact ⟨hq, keeping_independent_of_ordering.1 _ _ hq, hs, keeping_independent_of_ordering.2.1 _ _ hs,
    ha, (keeping_independent_of_ordering.2.2 _ _ ha).1⟩

end Stockroom
