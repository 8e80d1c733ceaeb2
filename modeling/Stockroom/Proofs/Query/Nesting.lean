import Stockroom.Proofs.Query.Forms

/-! # Nested choices

The nesting of a node is the greatest number of choices on the way to a leaf. A reading that does not
nest to the limit is the same one choice further in, so below the limit the depth at which a text is
read makes no difference.
-/
namespace Stockroom.Node

mutual

/-- How many choices stand one inside another. -/
def nesting : Node → Nat
  | term _ => 0
  | tag _ => 0
  | not inner => inner.nesting
  | anyOf branches => deepest branches + 1

def deepest : List Node → Nat
  | [] => 0
  | branch :: rest => max branch.nesting (deepest rest)

end

theorem deepest_le_iff {branches : List Node} {n : Nat} :
    deepest branches ≤ n ↔ ∀ b ∈ branches, b.nesting ≤ n := by
  induction branches with
  | nil => simp [deepest]
  | cons branch rest ih => rw [deepest, Nat.max_le, ih, List.forall_mem_cons]

theorem nesting_anyOf_le_iff {branches : List Node} {n : Nat} :
    (anyOf branches).nesting ≤ n + 1 ↔ ∀ b ∈ branches, b.nesting ≤ n := by
  rw [nesting, Nat.add_le_add_iff_right, deepest_le_iff]

@[simp] theorem nesting_negated (n : Node) : n.negated.nesting = n.nesting := by
  cases n with
  | not inner => simp only [negated, nesting]
  | term _ => rfl
  | tag _ => rfl
  | anyOf _ => rfl

/-- A reading that does not nest to the limit is the same one choice further in. -/
theorem ofText_succ {t : Text} {depth : Int} (h : (ofText t depth).nesting < maxNesting - depth) :
    ofText t (depth + 1) = ofText t depth := by
  revert h
  refine ofText_induction
    (motive := fun t depth n => (n.nesting : Int) < maxNesting - depth → ofText t (depth + 1) = n)
    ?dash ?wrapped ?choice ?deep ?bare t depth
  case dash =>
    intro t rest depth n ht ih h
    rw [nesting_negated] at h
    rw [ofText_dash ht, ih h]
  case wrapped =>
    intro t inner depth n ht ha ih h
    rw [ofText_wrapped ht ha, ih h]
  case choice =>
    intro t inner depth ht ha _ ih h
    rw [nesting] at h
    rw [ofText_choice ht ha, if_pos (by omega)]
    congr 1
    refine List.map_congr_left fun b hb => ih b hb ?_
    have hd := deepest_le_iff.mp le_rfl _ (List.mem_map_of_mem (f := (ofText · (depth + 1))) hb)
    omega
  case deep =>
    intro t inner depth _ _ hd h
    omega
  case bare =>
    intro t depth hd hp _
    exact ofText_bare hd hp (depth + 1)

/-- One choice further in, a text that does not nest to the limit is read as outside. -/
theorem ofText_one {t : Text} (h : (ofText t 0).nesting ≤ maxNesting - 1) :
    ofText t 1 = ofText t 0 := by
  have hroom : maxNesting - 1 < maxNesting := by decide
  have hn : ((ofText t 0).nesting : Int) < maxNesting - 0 := by omega
  exact ofText_succ hn

end Stockroom.Node
