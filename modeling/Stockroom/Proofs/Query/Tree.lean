import Stockroom.Query.Evaluation
import Stockroom.Report.Explanation
import Stockroom.Proofs.Query.Nesting

/-! # The tree of a node

The height of a node counts the nodes on the longest way down to a leaf. A well-formed node has no
negation of a negation, so that its height is bounded by its nesting. The height bounds how deeply
the evaluation of the node calls itself, and it is the height of the tree that explains the node.
-/
namespace Stockroom

theorem mapM_eq_some_map {α β : Type} {f : α → Option β} {g : α → β} {xs : List α}
    (h : ∀ x ∈ xs, f x = some (g x)) : xs.mapM f = some (xs.map g) := by
  induction xs with
  | nil => rfl
  | cons x xs ih =>
    rw [List.mapM_cons, h x List.mem_cons_self, ih fun y hy => h y (List.mem_cons_of_mem x hy)]
    rfl

namespace Node

mutual

/-- The number of nodes on the longest way from the root to a leaf. -/
def height : Node → Nat
  | term _ => 1
  | tag _ => 1
  | not inner => inner.height + 1
  | anyOf branches => tallest branches + 1

def tallest : List Node → Nat
  | [] => 0
  | branch :: rest => max branch.height (tallest rest)

end

mutual

def leafTexts : Node → List Text
  | term pattern => [pattern.body]
  | tag t => [t.value.body]
  | not inner => inner.leafTexts
  | anyOf branches => allLeafTexts branches

def allLeafTexts : List Node → List Text
  | [] => []
  | branch :: rest => branch.leafTexts ++ allLeafTexts rest

end

theorem tallest_le_iff {branches : List Node} {n : Nat} :
    tallest branches ≤ n ↔ ∀ b ∈ branches, b.height ≤ n := by
  induction branches with
  | nil => simp [tallest]
  | cons branch rest ih => rw [tallest, Nat.max_le, ih, List.forall_mem_cons]

theorem allLeafTexts_eq_flatMap (branches : List Node) :
    allLeafTexts branches = branches.flatMap leafTexts := by
  induction branches with
  | nil => rfl
  | cons branch rest ih => rw [allLeafTexts, ih, List.flatMap_cons]

@[simp] theorem leafTexts_negated (n : Node) : n.negated.leafTexts = n.leafTexts := by
  cases n with
  | not inner => rw [negated, leafTexts]
  | term _ => rfl
  | tag _ => rfl
  | anyOf _ => rfl

/-- No negation is negated, a choice leaves a choice, and a literal value has no operator but
equality. -/
inductive WellFormed : Node → Prop
  | term (pattern : Pattern) : WellFormed (.term pattern)
  | tag {t : Tag} (h : t.value.literal = true → t.operator = .eq) : WellFormed (.tag t)
  | not {inner : Node} (h : WellFormed inner) (hn : ∀ m, inner ≠ .not m) : WellFormed (.not inner)
  | anyOf {branches : List Node} (h2 : 2 ≤ branches.length) (h : ∀ b ∈ branches, WellFormed b) :
      WellFormed (.anyOf branches)

theorem WellFormed.negated {n : Node} (h : n.WellFormed) : n.negated.WellFormed := by
  cases h with
  | not h _ => exact h
  | term pattern => exact .not (.term pattern) (by nofun)
  | tag h => exact .not (.tag h) (by nofun)
  | anyOf h2 h => exact .not (.anyOf h2 h) (by nofun)

/-- Above each choice and above the leaf there is room for one negation. -/
theorem WellFormed.height_le {n : Node} (h : n.WellFormed) :
    n.height ≤ 2 * n.nesting + 2 ∧ ((∀ m, n ≠ .not m) → n.height ≤ 2 * n.nesting + 1) := by
  induction h with
  | term _ => simp [height, nesting]
  | tag _ => simp [height, nesting]
  | @not inner _ hn ih =>
    have hi := ih.2 hn
    rw [height, nesting]
    exact ⟨by omega, fun hne => absurd rfl (hne inner)⟩
  | @anyOf branches _ _ ih =>
    have ht : tallest branches ≤ 2 * deepest branches + 2 := by
      refine tallest_le_iff.mpr fun b hb => ?_
      have hd := deepest_le_iff.mp (le_refl (deepest branches)) b hb
      exact (ih b hb).1.trans (by omega)
    rw [height, nesting]
    exact ⟨by omega, fun _ => by omega⟩

/-- Evaluation in at most so many calls one inside another. -/
def holdsFor (r : Record) : Nat → Node → Option Bool
  | 0, _ => none
  | _ + 1, term pattern => some (pattern.inSomeField r)
  | _ + 1, tag t => some (t.holds r)
  | calls + 1, not inner => (holdsFor r calls inner).map fun verdict => !verdict
  | calls + 1, anyOf branches =>
    (branches.mapM (holdsFor r calls)).map fun verdicts => verdicts.any id

theorem holdsFor_eq_some {r : Record} {n : Node} {calls : Nat} (h : n.height ≤ calls) :
    holdsFor r calls n = some (n.holds r) := by
  induction calls generalizing n with
  | zero => cases n <;> simp [height] at h
  | succ calls ih =>
    cases n with
    | term _ => rfl
    | tag _ => rfl
    | not inner =>
      rw [height, Nat.add_le_add_iff_right] at h
      rw [holdsFor, ih h, holds]
      rfl
    | anyOf branches =>
      rw [height, Nat.add_le_add_iff_right, tallest_le_iff] at h
      rw [holdsFor, mapM_eq_some_map fun b hb => ih (h b hb), holds, anyHolds_eq_any, Option.map_some,
        List.any_map]
      rfl

end Node

namespace Tree

mutual

def height : Tree → Nat
  | node _ children => tallest children + 1

def tallest : List Tree → Nat
  | [] => 0
  | child :: rest => max child.height (tallest rest)

end

end Tree

namespace Node

mutual

/-- The explanation has a node for each node. -/
theorem height_toTree : ∀ n : Node, n.toTree.height = n.height
  | term _ => rfl
  | tag _ => rfl
  | not inner => by
    rw [toTree, Tree.height, Tree.tallest, Tree.tallest, height_toTree inner, height, Nat.max_zero]
  | anyOf branches => by rw [toTree, Tree.height, tallest_toTrees branches, height]

theorem tallest_toTrees : ∀ branches : List Node, Tree.tallest (toTrees branches) = tallest branches
  | [] => rfl
  | branch :: rest => by
    rw [toTrees, Tree.tallest, height_toTree branch, tallest_toTrees rest, tallest]

end

end Node

/-- The tree of a query stands one node above the trees of its clauses; an empty query has a note in
place of them. -/
theorem Query.height_toTree (q : Query) :
    q.toTree.height = max 1 (Node.tallest q.clauses) + 1 := by
  rw [toTree, Tree.height, clauseTrees]
  cases q.clauses with
  | nil => rfl
  | cons n ns =>
    have hn : 1 ≤ n.height := by cases n <;> simp [Node.height]
    have ht : n.height ≤ Node.tallest (n :: ns) := by
      rw [Node.tallest]
      exact le_max_left _ _
    rw [Node.tallest_toTrees, max_eq_right (hn.trans ht)]

end Stockroom
