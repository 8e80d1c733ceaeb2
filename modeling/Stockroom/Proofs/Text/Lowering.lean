import Stockroom.Text.Folded
import Mathlib.Data.List.Forall2

/-! # Lower case in context

The lower case of a text depends on what surrounds it at capital sigmas only. Of what stands in front
counts one flag, whether its last character that is not ignorable is cased. If every capital sigma
ends a word in the larger text exactly if it ends one in the smaller, the lower case of the smaller
text is a piece of that of the larger.
-/
namespace Stockroom.Text
open Character

def casedBehind (cased : Bool) (t : Text) : Bool :=
  t.foldl (fun cased c => if isCaseIgnorable c then cased else isCased c) cased

theorem casedBehind_append (cased : Bool) (t u : Text) :
    casedBehind cased (t ++ u) = casedBehind (casedBehind cased t) u := List.foldl_append

/-- Looking back from the end of a text is looking ahead in the reversed text. -/
theorem casedBehind_eq_casedFollows (t : Text) : casedBehind false t = casedFollows t.reverse := by
  rw [casedBehind, List.foldl_eq_foldr_reverse]
  induction t.reverse with
  | nil => rfl
  | cons c t ih =>
    rw [List.foldr_cons, ih]
    rfl

def isFinal (before after : Text) : Bool := casedFollows before.reverse && !casedFollows after

theorem lowerAfter_cons (cased : Bool) (c : Char) (t : Text) :
    lowerAfter cased (c :: t) =
      (if c = 'Σ' then (if cased && !casedFollows t then 'ς' else 'σ') else lowerCase c) ::
        lowerAfter (casedBehind cased [c]) t := rfl

/-- A form that lowering gives to a character: its lower case, or the final form of a sigma. -/
def IsSmallForm (c d : Char) : Prop := d = lowerCase c ∨ c = 'Σ' ∧ d = 'ς'

/-- Characters are lowered in their places. -/
theorem forall₂_lowerAfter (cased : Bool) (t : Text) :
    List.Forall₂ IsSmallForm t (lowerAfter cased t) := by
  induction t generalizing cased with
  | nil => exact .nil
  | cons c t ih =>
    refine .cons ?_ (ih _)
    split
    · next hc =>
      rw [hc]
      cases cased && !casedFollows t with
      | true => exact .inr ⟨rfl, rfl⟩
      | false => exact .inl (by decide +kernel)
    · exact .inl rfl

theorem exists_of_mem_lowerAfter {cased : Bool} {t : Text} {d : Char}
    (h : d ∈ lowerAfter cased t) : ∃ c ∈ t, IsSmallForm c d := by
  obtain ⟨i, hi, rfl⟩ := List.mem_iff_getElem.mp h
  have hforms := List.forall₂_iff_get.mp (forall₂_lowerAfter cased t)
  have ht : i < t.length := by
    rw [length_lowerAfter] at hi
    exact hi
  exact ⟨t[i], List.getElem_mem ht, hforms.2 i ht hi⟩

/-- The lower case of a later part is a later part of the lower case. -/
theorem suffix_lowerAfter (cased : Bool) (t u : Text) :
    lowerAfter (casedBehind cased t) u <:+ lowerAfter cased (t ++ u) := by
  induction t generalizing cased with
  | nil => exact List.suffix_refl _
  | cons c t ih =>
    rw [List.cons_append, lowerAfter_cons]
    exact (ih (casedBehind cased [c])).trans (List.suffix_cons _ _)

/-- A text whose capital sigmas keep their forms is lowered as if it stood alone. -/
theorem lowerAfter_append {t u : Text} {cased alone : Bool}
    (h : ∀ front back, t = front ++ 'Σ' :: back →
      (casedBehind cased front && !casedFollows (back ++ u)) =
        (casedBehind alone front && !casedFollows back)) :
    lowerAfter cased (t ++ u) = lowerAfter alone t ++ lowerAfter (casedBehind cased t) u := by
  induction t generalizing cased alone with
  | nil => rfl
  | cons c t ih =>
    have hrest : ∀ front back, t = front ++ 'Σ' :: back →
        (casedBehind (casedBehind cased [c]) front && !casedFollows (back ++ u)) =
          (casedBehind (casedBehind alone [c]) front && !casedFollows back) :=
      fun front back ht => h (c :: front) back (congrArg (c :: ·) ht)
    have hhead : (if c = 'Σ' then (if cased && !casedFollows (t ++ u) then 'ς' else 'σ')
          else lowerCase c) =
        if c = 'Σ' then (if alone && !casedFollows t then 'ς' else 'σ') else lowerCase c := by
      split
      · next hc =>
        have hform : (cased && !casedFollows (t ++ u)) = (alone && !casedFollows t) :=
          h [] t (congrArg (· :: t) hc)
        rw [hform]
      · rfl
    rw [List.cons_append, lowerAfter_cons, lowerAfter_cons, ih hrest, hhead]
    rfl

theorem casedFollows_append {u : Text} (h : casedFollows u = false) (t : Text) :
    casedFollows (t ++ u) = casedFollows t := by
  induction t with
  | nil => exact h
  | cons c t ih => rw [List.cons_append, casedFollows, casedFollows, ih]

/-- A text is lowered within another as if it stood alone, if it has every capital sigma in the same
form there. -/
theorem lower_infix {before t after : Text}
    (h : ∀ front back, t = front ++ 'Σ' :: back →
      isFinal (before ++ front) (back ++ after) = isFinal front back) :
    lower t <:+: lower (before ++ t ++ after) := by
  have hforms : ∀ front back, t = front ++ 'Σ' :: back →
      (casedBehind (casedBehind false before) front && !casedFollows (back ++ after)) =
        (casedBehind false front && !casedFollows back) := by
    intro front back ht
    have hfinal := h front back ht
    rwa [isFinal, isFinal, ← casedBehind_eq_casedFollows, ← casedBehind_eq_casedFollows,
      casedBehind_append] at hfinal
  rw [List.append_assoc]
  have hsuffix := suffix_lowerAfter false before (t ++ after)
  rw [lowerAfter_append hforms] at hsuffix
  exact (List.prefix_append _ _).isInfix.trans hsuffix.isInfix

end Stockroom.Text
