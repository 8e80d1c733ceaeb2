/-! # Tables over code points

Character properties are tabulated in two shapes: closed intervals of code points, and strided
runs that shift every code point they cover by one distance.
-/
namespace Stockroom.Character

abbrev Intervals := List (Nat × Nat)

def Intervals.holds (table : Intervals) (code : Nat) : Bool :=
  table.any fun i => decide (i.1 ≤ code) && decide (code ≤ i.2)

theorem Intervals.holds_iff {table : Intervals} {code : Nat} :
    table.holds code = true ↔ ∃ i ∈ table, i.1 ≤ code ∧ code ≤ i.2 := by
  simp [Intervals.holds]

/-- The code points `first, first + stride, …, last`, sent to `image, image + stride, …`. -/
structure Run where
  first : Nat
  last : Nat
  stride : Nat
  image : Nat

def Run.covers (r : Run) (code : Nat) : Bool :=
  decide (r.first ≤ code) && decide (code ≤ r.last) && (code - r.first) % r.stride == 0

def Run.send (r : Run) (code : Nat) : Nat := r.image + (code - r.first)

def imageOf? (table : List Run) (code : Nat) : Option Nat :=
  (table.find? (·.covers code)).map (·.send code)

theorem imageOf?_eq_some {table : List Run} {code image : Nat}
    (h : imageOf? table code = some image) :
    ∃ r ∈ table, r.covers code = true ∧ r.send code = image := by
  obtain ⟨r, hr, he⟩ := Option.map_eq_some_iff.mp h
  exact ⟨r, List.mem_of_find?_eq_some hr, by simpa using List.find?_some hr, he⟩

end Stockroom.Character
