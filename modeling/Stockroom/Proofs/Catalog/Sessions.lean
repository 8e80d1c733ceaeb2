import Stockroom.Catalog.Session
import Stockroom.Proofs.Catalog.Steps

/-! # What a session leaves behind

A failed action leaves the catalog as it was, so a session may as well go without it. An action that
brings no record in is at most one step for the items and one for the history, and a session of such
actions leaves what these steps leave of the two lists, whatever is asked in between. So it makes no
difference where in the session records are dropped.
-/
namespace Stockroom

namespace Action

def itemStep? : Action → Option (ListStep (SortOption × Direction))
  | keepItems query => some (.keep query)
  | sortItems option direction => some (.arrange (option, direction))
  | load _ _ | searchItems _ _ _ _ | searchHistory _ _ | count _ | newestFirst | keepHistory _
  | add _ => none

def entryStep? : Action → Option (ListStep Unit)
  | keepHistory query => some (.keep query)
  | newestFirst => some (.arrange ())
  | load _ _ | searchItems _ _ _ _ | searchHistory _ _ | count _ | sortItems _ _ | keepItems _
  | add _ => none

def BringsIn : Action → Prop
  | load _ _ | add _ => True
  | searchItems _ _ _ _ | searchHistory _ _ | count _ | sortItems _ _ | newestFirst | keepItems _
  | keepHistory _ => False

def keeps : Action → Bool
  | keepItems _ | keepHistory _ => true
  | load _ _ | searchItems _ _ _ _ | searchHistory _ _ | count _ | sortItems _ _ | newestFirst
  | add _ => false

theorem isArrange_of_itemStep? (action : Action) (step : ListStep (SortOption × Direction))
    (h : action.itemStep? = some step) : step.isArrange = !action.keeps := by
  cases action <;> cases h <;> rfl

theorem isArrange_of_entryStep? (action : Action) (step : ListStep Unit)
    (h : action.entryStep? = some step) : step.isArrange = !action.keeps := by
  cases action <;> cases h <;> rfl

end Action

section FilterMap

variable {α β : Type} {f : α → Option β}

theorem filterMap_cons_eq_toList_append (x : α) (xs : List α) :
    (x :: xs).filterMap f = (f x).toList ++ xs.filterMap f := by
  cases h : f x with
  | none => exact List.filterMap_cons_none h
  | some y => exact List.filterMap_cons_some h

theorem filterMap_filter_eq_filter_filterMap {p : α → Bool} {q : β → Bool}
    (h : ∀ x y, f x = some y → q y = p x) (xs : List α) :
    (xs.filter p).filterMap f = (xs.filterMap f).filter q := by
  rw [List.filterMap_filter, List.filter_filterMap]
  refine List.filterMap_congr fun x _ => ?_
  cases hx : f x with
  | none => simp only [Option.filter_none, ite_self]
  | some y => rw [← h x y hx, Option.filter_some]

theorem filterMap_filter_append {keeps : α → Bool} {ω : Type} {f : α → Option (ListStep ω)}
    (h : ∀ x step, f x = some step → step.isArrange = !keeps x) (xs : List α) :
    (xs.filter keeps ++ xs.filter fun x => !keeps x).filterMap f =
      (xs.filterMap f).filter (fun step => !step.isArrange) ++
        (xs.filterMap f).filter ListStep.isArrange := by
  have hkeep : ∀ x step, f x = some step → (!step.isArrange) = keeps x := by
    intro x step hstep
    rw [h x step hstep, Bool.not_not]
  rw [List.filterMap_append, filterMap_filter_eq_filter_filterMap hkeep,
    filterMap_filter_eq_filter_filterMap h]

end FilterMap

namespace Catalog

variable {catalog : Catalog} {action : Action} {actions : List Action}

theorem act_fst_of_error {fault : ActionFault} (h : (catalog.act action).2 = .error fault) :
    (catalog.act action).1 = catalog := by
  rw [act] at h ⊢
  split at h
  · cases h
  · rfl

theorem session_cons :
    (catalog.session (action :: actions)).1 = ((catalog.act action).1.session actions).1 := rfl

theorem session_append (before behind : List Action) :
    (catalog.session (before ++ behind)).1 =
      ((catalog.session before).1.session behind).1 := by
  induction before generalizing catalog with
  | nil => rfl
  | cons action before ih => exact ih

/-- A failed action may be left out of a session. -/
theorem session_of_error {before behind : List Action} {fault : ActionFault}
    (h : ((catalog.session before).1.act action).2 = .error fault) :
    (catalog.session (before ++ action :: behind)).1 =
      (catalog.session (before ++ behind)).1 := by
  rw [session_append, session_append, session_cons, act_fst_of_error h]

/-- What an action that brings nothing in does to either list is its step there. -/
theorem lists_act (catalog : Catalog) (h : ¬action.BringsIn) :
    (catalog.act action).1.items = itemsBehind action.itemStep?.toList catalog.items ∧
      (catalog.act action).1.history = entriesBehind action.entryStep?.toList catalog.history := by
  cases action with
  | load | add => exact absurd trivial h
  | sortItems | newestFirst | keepItems | keepHistory | count => exact ⟨rfl, rfl⟩
  | searchItems query option direction limit =>
    rw [act, perform]
    cases catalog.searchItems query option direction limit with
    | ok found => exact ⟨rfl, rfl⟩
    | error fault => exact ⟨rfl, rfl⟩
  | searchHistory query limit =>
    rw [act, perform]
    cases catalog.searchHistory query limit with
    | ok found => exact ⟨rfl, rfl⟩
    | error fault => exact ⟨rfl, rfl⟩

theorem lists_session (catalog : Catalog) (h : ∀ action ∈ actions, ¬action.BringsIn) :
    (catalog.session actions).1.items =
        itemsBehind (actions.filterMap Action.itemStep?) catalog.items ∧
      (catalog.session actions).1.history =
        entriesBehind (actions.filterMap Action.entryStep?) catalog.history := by
  induction actions generalizing catalog with
  | nil => exact ⟨rfl, rfl⟩
  | cons action actions ih =>
    obtain ⟨haction, hrest⟩ := List.forall_mem_cons.mp h
    obtain ⟨hitems, hhistory⟩ := lists_act catalog haction
    obtain ⟨ihitems, ihhistory⟩ := ih (catalog.act action).1 hrest
    rw [session_cons, ihitems, ihhistory, hitems, hhistory, filterMap_cons_eq_toList_append,
      filterMap_cons_eq_toList_append]
    exact ⟨(ListStep.run_append _ _ _ _ _).symm, (ListStep.run_append _ _ _ _ _).symm⟩

/-- Where in a session records are dropped makes no difference: it leaves the catalog that it leaves
with everything dropped at the start. -/
theorem session_eq_session_filter_append (catalog : Catalog)
    (h : ∀ action ∈ actions, ¬action.BringsIn) :
    (catalog.session actions).1 =
      (catalog.session (actions.filter Action.keeps ++
        actions.filter fun action => !action.keeps)).1 := by
  have hmoved : ∀ action ∈ actions.filter Action.keeps ++
      actions.filter (fun action => !action.keeps), ¬action.BringsIn := by
    intro action hmem
    rcases List.mem_append.mp hmem with hmem | hmem
    · exact h action (List.mem_filter.mp hmem).1
    · exact h action (List.mem_filter.mp hmem).1
  obtain ⟨hitems, hhistory⟩ := lists_session catalog h
  obtain ⟨hitems', hhistory'⟩ := lists_session catalog hmoved
  have hext : ∀ {c d : Catalog}, c.items = d.items → c.history = d.history → c = d := by
    rintro ⟨_, _⟩ ⟨_, _⟩ rfl rfl
    rfl
  refine hext ?_ ?_
  · rw [hitems, hitems', filterMap_filter_append Action.isArrange_of_itemStep?]
    exact ListStep.run_eq_run_filter_append (fun _ _ => rfl)
      (fun order p xs => filter_sortItems order.1 order.2 p xs) _ _
  · rw [hhistory, hhistory', filterMap_filter_append Action.isArrange_of_entryStep?]
    exact ListStep.run_eq_run_filter_append (fun _ _ => rfl)
      (fun _ p xs => filter_newestFirst p xs) _ _

end Catalog

end Stockroom
