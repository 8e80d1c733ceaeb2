import Stockroom.Proofs.Query.Tree
import Mathlib.Algebra.Order.BigOperators.Group.List
import Mathlib.Algebra.Order.Group.Nat

/-! # The size of what is read

Every text, however malformed, is read as a well-formed node. Its nesting is at most the room left
at the depth, and so is its height, up to a constant factor; each of its leaves but one is paid for
by a tilde of the text, and the texts of the leaves are parts of the text that do not overlap.

`readFor` reads with an allowance of rounds for each peeling and of calls one inside another. It
never runs out if there are as many rounds as characters and one call more than there is room.
-/
namespace Stockroom

theorem Operator.length_split_le (expression : Text) :
    (Operator.split expression).2.length ≤ expression.length := by
  rw [Operator.split.eq_def]
  split <;> simp only [List.length_cons] <;> omega

namespace Tag

theorem length_value_ofTexts_le (key expression : Text) :
    (ofTexts key expression).value.body.length ≤ expression.length := by
  rw [ofTexts]
  cases hq : Text.interior? '"' '"' expression with
  | none => exact Operator.length_split_le expression
  | some inner =>
    rw [Text.interior?_eq_some_iff.mp hq]
    exact (Text.sublist_between inner).length_le

theorem operator_ofTexts {key expression : Text}
    (h : (ofTexts key expression).value.literal = true) : (ofTexts key expression).operator = .eq := by
  rw [ofTexts] at h ⊢
  cases hq : Text.interior? '"' '"' expression with
  | none =>
    rw [hq] at h
    cases h
  | some inner => rfl

end Tag

namespace Node

theorem wellFormed_leaf (t : Text) : (leaf t).WellFormed := by
  rw [leaf]
  split
  · exact .term _
  · split
    · exact .tag Tag.operator_ofTexts
    · exact .term _

@[simp] theorem nesting_leaf (t : Text) : (leaf t).nesting = 0 := by
  rw [leaf]
  split
  · rfl
  · split <;> rfl

theorem exists_leafTexts_leaf (t : Text) : ∃ x, (leaf t).leafTexts = [x] ∧ x.length ≤ t.length := by
  rw [leaf]
  split
  · next inner hq =>
    refine ⟨inner, rfl, ?_⟩
    rw [Text.interior?_eq_some_iff.mp hq]
    exact (Text.sublist_between inner).length_le
  · split
    · next key expression hc =>
      refine ⟨_, rfl, (Tag.length_value_ofTexts_le key expression).trans ?_⟩
      rw [Text.cutFirst?_eq_some hc, List.length_append, List.length_cons]
      omega
    · exact ⟨t, rfl, le_rfl⟩

theorem wellFormed_ofText (t : Text) (depth : Int) : (ofText t depth).WellFormed := by
  refine ofText_induction (motive := fun _ _ n => n.WellFormed) ?dash ?wrapped ?choice ?deep ?bare
    t depth
  case dash => exact fun _ h => h.negated
  case wrapped => exact fun _ _ h => h
  case choice =>
    intro t inner depth _ ha _ h
    refine .anyOf (by rwa [List.length_map]) ?_
    rintro n hn
    obtain ⟨b, hb, rfl⟩ := List.mem_map.mp hn
    exact h b hb
  case deep => exact fun _ _ _ => wellFormed_leaf _
  case bare => exact fun _ _ => wellFormed_leaf _

theorem nesting_ofText_le (t : Text) (depth : Int) :
    (ofText t depth).nesting ≤ (maxNesting - depth).toNat := by
  refine ofText_induction (motive := fun _ depth n => n.nesting ≤ (maxNesting - depth).toNat)
    ?dash ?wrapped ?choice ?deep ?bare t depth
  case dash =>
    intro t rest depth n _ h
    rwa [nesting_negated]
  case wrapped => exact fun _ _ h => h
  case choice =>
    intro t inner depth _ _ hd h
    have hroom : (maxNesting - depth).toNat = (maxNesting - (depth + 1)).toNat + 1 := by omega
    rw [hroom, nesting_anyOf_le_iff]
    rintro n hn
    obtain ⟨b, hb, rfl⟩ := List.mem_map.mp hn
    exact h b hb
  case deep => simp
  case bare => simp

theorem leafTexts_anyOf_map (read : Text → Node) (branches : List Text) :
    (anyOf (branches.map read)).leafTexts = branches.flatMap fun b => (read b).leafTexts := by
  rw [leafTexts, allLeafTexts_eq_flatMap, List.flatMap_map]

/-- A weight that fits into every leaf text, and into every text in parentheses if it fits into the
alternatives, fits into every text. -/
theorem weight_ofText_le (weight : Node → Nat) (room : Text → Nat)
    (mono : ∀ {t u : Text}, t.Sublist u → room t ≤ room u)
    (turn : ∀ n, weight n.negated = weight n) (single : ∀ t, weight (leaf t) ≤ room t)
    (several : ∀ (read : Text → Node) (inner : Text),
      (∀ b ∈ alternatives inner, weight (read b) ≤ room b) →
        weight (.anyOf ((alternatives inner).map read)) ≤ room inner)
    (t : Text) (depth : Int) : weight (ofText t depth) ≤ room t := by
  have hbetween {t inner : Text} (ht : t.trim = inner.between '(' ')') : inner.Sublist t := by
    have hi : inner.Sublist t.trim := by
      rw [ht]
      exact Text.sublist_between inner
    exact hi.trans t.trim_sublist
  have hleaf (t : Text) : weight (leaf t.trim) ≤ room t := (single _).trans (mono t.trim_sublist)
  refine ofText_induction (motive := fun t _ n => weight n ≤ room t)
    ?dash ?wrapped ?choice ?deep ?bare t depth
  case dash =>
    intro t rest depth n ht h
    have hs := t.trim_sublist
    rw [ht] at hs
    rw [turn]
    exact h.trans (mono (List.sublist_of_cons_sublist hs))
  case wrapped =>
    intro t inner depth n ht _ h
    exact h.trans (mono (hbetween ht))
  case choice =>
    intro t inner depth ht _ _ h
    exact (several _ inner h).trans (mono (hbetween ht))
  case deep => exact fun _ _ _ => hleaf _
  case bare => exact fun _ _ => hleaf _

/-- Each alternative has its leaves for its own tildes, and one more for the tilde before it. -/
theorem length_leafTexts_ofText_le (t : Text) (depth : Int) :
    (ofText t depth).leafTexts.length ≤ t.count '~' + 1 := by
  refine weight_ofText_le (fun n => n.leafTexts.length) (fun t => t.count '~' + 1)
    ?mono ?turn ?single ?several t depth
  case mono => exact fun h => Nat.succ_le_succ (h.count_le '~')
  case turn => exact fun n => congrArg List.length (leafTexts_negated n)
  case single =>
    intro t
    obtain ⟨x, hx, _⟩ := exists_leafTexts_leaf t
    rw [hx, List.length_singleton]
    omega
  case several =>
    intro read inner h
    calc (anyOf ((alternatives inner).map read)).leafTexts.length
        = ((alternatives inner).map fun b => (read b).leafTexts.length).sum := by
          rw [leafTexts_anyOf_map, List.length_flatMap]
      _ ≤ ((alternatives inner).map fun b => b.count '~' + 1).sum := List.sum_le_sum h
      _ = (alternatives inner).flatten.count '~' + (alternatives inner).length := by
          rw [List.sum_map_add, List.count_flatten]
          simp
      _ = inner.count '~' + 1 := Scan.count_flatten_pieces '~' Scan.rest inner

/-- The leaves have their texts from parts of the text that do not overlap. -/
theorem length_flatten_leafTexts_ofText_le (t : Text) (depth : Int) :
    (ofText t depth).leafTexts.flatten.length ≤ t.length := by
  refine weight_ofText_le (fun n => n.leafTexts.flatten.length) List.length
    ?mono ?turn ?single ?several t depth
  case mono => exact fun h => h.length_le
  case turn => exact fun n => congrArg (·.flatten.length) (leafTexts_negated n)
  case single =>
    intro t
    obtain ⟨x, hx, hl⟩ := exists_leafTexts_leaf t
    rwa [hx, List.flatten_singleton]
  case several =>
    intro read inner h
    calc (anyOf ((alternatives inner).map read)).leafTexts.flatten.length
        = ((alternatives inner).map fun b => (read b).leafTexts.flatten.length).sum := by
          rw [leafTexts_anyOf_map, List.flatMap, List.flatten_flatten, List.length_flatten,
            List.map_map, List.map_map]
          rfl
      _ ≤ ((alternatives inner).map List.length).sum := List.sum_le_sum h
      _ = (alternatives inner).flatten.length := List.length_flatten.symm
      _ ≤ inner.length := Scan.length_flatten_pieces_le '~' Scan.rest inner

theorem height_ofText_le (t : Text) (depth : Int) :
    (ofText t depth).height ≤ 2 * (maxNesting - depth).toNat + 2 := by
  have hh := (wellFormed_ofText t depth).height_le.1
  have hn := nesting_ofText_le t depth
  omega

end Node

/-- Peeling in at most so many rounds. -/
def peelFor : Nat → Text → Option (Bool × Text)
  | 0, t => if unwrap? t.trim = none then some (false, t.trim) else none
  | rounds + 1, t =>
    match unwrap? t.trim with
    | some (dash, inner) => (peelFor rounds inner).map fun p => (dash ^^ p.1, p.2)
    | none => some (false, t.trim)

theorem peelFor_eq_some {rounds : Nat} {t : Text} (h : t.length ≤ rounds) :
    peelFor rounds t = some (peel t) := by
  induction rounds generalizing t with
  | zero =>
    obtain rfl := List.length_eq_zero_iff.mp (Nat.le_zero.mp h)
    rw [peel_of_unwrap?_eq_none (by decide)]
    rfl
  | succ rounds ih =>
    rw [peelFor]
    cases hu : unwrap? t.trim with
    | none => rw [peel_of_unwrap?_eq_none hu]
    | some p =>
      obtain ⟨dash, inner⟩ := p
      have hl := length_lt_of_unwrap? hu
      have ht := t.length_trim_le
      have hi : inner.length ≤ rounds := by omega
      rw [peel_of_unwrap? hu]
      simp only [ih hi, Option.map_some]

theorem length_peel_le (t : Text) : (peel t).2.length ≤ t.length := by
  fun_induction peel t with
  | case1 t dash inner hu hl negative core hp ih =>
    rw [hp] at ih
    exact ih.trans hl.le
  | case2 t _ => exact t.length_trim_le

namespace Node

theorem length_le_of_mem_groupOf? {core branch : Text} {branches : List Text}
    (h : groupOf? core = some branches) (hb : branch ∈ branches) : branch.length ≤ core.length := by
  simp only [groupOf?] at h
  split at h
  · next inner hi =>
    split at h
    · cases h
      rw [Text.interior?_eq_some_iff.mp hi]
      exact (length_le_of_mem_alternatives hb).trans (Text.sublist_between inner).length_le
    · cases h
  · cases h

/-- At a depth, several alternatives in parentheses are a choice above the greatest depth only. -/
theorem readCore_eq (core : Text) (depth : Int) : readCore (maxNesting - depth).toNat core =
    match groupOf? core with
    | some branches =>
      if depth < maxNesting then .anyOf (branches.map (ofText · (depth + 1))) else leaf core
    | none => leaf core := by
  by_cases hd : depth < maxNesting
  · have hroom : (maxNesting - depth).toNat = (maxNesting - (depth + 1)).toNat + 1 := by omega
    rw [hroom, readCore]
    simp only [if_pos hd]
    rfl
  · have hroom : (maxNesting - depth).toNat = 0 := by omega
    rw [hroom, readCore]
    simp only [if_neg hd]
    split <;> rfl

/-- Reading in at most so many calls one inside another, with so many rounds of peeling in each. -/
def readFor (rounds : Nat) : Nat → Text → Int → Option Node
  | 0, _, _ => none
  | calls + 1, t, depth => do
    let peeled ← peelFor rounds t
    let node ← match groupOf? peeled.2 with
      | some branches =>
        if depth < maxNesting then
          (branches.mapM fun b => readFor rounds calls b (depth + 1)).map anyOf
        else some (leaf peeled.2)
      | none => some (leaf peeled.2)
    return ofPeeled (fun _ => node) peeled

theorem readFor_eq_some {rounds calls : Nat} {t : Text} {depth : Int} (hr : t.length ≤ rounds)
    (hc : (maxNesting - depth).toNat < calls) : readFor rounds calls t depth = some (ofText t depth) := by
  induction calls generalizing t depth with
  | zero => omega
  | succ calls ih =>
    have hcore := length_peel_le t
    have hread : ofText t depth =
        ofPeeled (fun _ => readCore (maxNesting - depth).toNat (peel t).2) (peel t) :=
      readWithin_eq _ t
    rw [readFor, peelFor_eq_some hr, hread, readCore_eq]
    cases hg : groupOf? (peel t).2 with
    | none => simp [hg]
    | some branches =>
      by_cases hd : depth < maxNesting
      · have hb : ∀ b ∈ branches, readFor rounds calls b (depth + 1) = some (ofText b (depth + 1)) := by
          intro b hb
          have hl := length_le_of_mem_groupOf? hg hb
          exact ih (by omega) (by omega)
        simp [hg, hd, mapM_eq_some_map hb]
      · simp [hg, hd]

end Node

/-- The clauses of a query stand inside no choice, so one bound holds for all queries. -/
theorem Query.tallest_clauses_le (query : Text) :
    Node.tallest (Query.ofText query).clauses ≤ 2 * maxNesting + 2 := by
  refine Node.tallest_le_iff.mpr fun n hn => ?_
  obtain ⟨t, _, rfl⟩ := List.mem_map.mp hn
  exact Node.height_ofText_le t 0

/-- Every text is read as a well-formed node within the room left at the depth: its choices nest no
deeper, its height is at most twice that and two, it has at most one leaf more than the text has
tildes, and its leaves hold no more characters than the text. Reading takes at most one round of
peeling for each character and one call more than there is room, and evaluating it no more calls one
inside another than the bound of its height. For the clauses of a query, and for the tree that
explains it, the bound is the same whatever the query. -/
theorem readings_are_small :
    (∀ (t : Text) (depth : Int),
      (Node.ofText t depth).WellFormed ∧
      (Node.ofText t depth).nesting ≤ (maxNesting - depth).toNat ∧
      (Node.ofText t depth).height ≤ 2 * (maxNesting - depth).toNat + 2 ∧
      (Node.ofText t depth).leafTexts.length ≤ t.count '~' + 1 ∧
      (Node.ofText t depth).leafTexts.flatten.length ≤ t.length ∧
      Node.readFor t.length ((maxNesting - depth).toNat + 1) t depth = some (Node.ofText t depth) ∧
      ∀ r : Record, Node.holdsFor r (2 * (maxNesting - depth).toNat + 2) (Node.ofText t depth) =
        some ((Node.ofText t depth).holds r)) ∧
    ∀ query : Text,
      Node.tallest (Query.ofText query).clauses ≤ 2 * maxNesting + 2 ∧
      (Query.ofText query).toTree.height ≤ 2 * maxNesting + 3 := by
  refine ⟨fun t depth => ?_, fun query => ?_⟩
  · have hh := Node.height_ofText_le t depth
    exact ⟨Node.wellFormed_ofText t depth, Node.nesting_ofText_le t depth, hh,
      Node.length_leafTexts_ofText_le t depth, Node.length_flatten_leafTexts_ofText_le t depth,
      Node.readFor_eq_some le_rfl (Nat.lt_succ_self _), fun r => Node.holdsFor_eq_some hh⟩
  · have hc := Query.tallest_clauses_le query
    rw [Query.height_toTree]
    omega

end Stockroom
