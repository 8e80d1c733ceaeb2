import Stockroom.Number.Binary64

/-! # Shortest decimal digits

The decimal form of a large number of 53 significant binary digits: the fewest digits that round
back to it, and of those the nearest to it. Fewer digits mean a coarser decimal grid, and on each
grid only the two neighbours of the number need to be tried.
-/
namespace Stockroom

/-- Whether a decimal neighbour rounds to `n`. Half the spacing separates `n` from the next number
of the format; below a power of two the spacing is half as wide. The ends round to an even
significand. Distances are measured in quarters of the spacing. -/
def roundsTo (n candidate : Nat) : Bool :=
  let spacing := Nat.pow 2 (n.log2 - 52)
  let significand := n / spacing
  let below := if significand = Nat.pow 2 52 then spacing else 2 * spacing
  let above := 2 * spacing
  if significand % 2 = 0 then decide (4 * n ≤ 4 * candidate + below ∧ 4 * candidate ≤ 4 * n + above)
  else decide (4 * n < 4 * candidate + below ∧ 4 * candidate < 4 * n + above)

def gridNeighbour? (n step : Nat) : Option Nat :=
  let low := n / step
  let high := low + 1
  match roundsTo n (low * step), roundsTo n (high * step) with
  | true, true =>
    let toLow := n - low * step
    let toHigh := high * step - n
    if toLow < toHigh then some low
    else if toHigh < toLow then some high
    else some (if low % 2 = 0 then low else high)
  | true, false => some low
  | false, true => some high
  | false, false => none

/-- Digits and a power of ten: the first grid, from coarse to fine, with a neighbour that rounds
to `n`. -/
def shortestDecimal (n : Nat) : Nat × Nat :=
  let count := (Nat.toDigits 10 n).length
  let grids := (List.range count).map fun k => count - 1 - k
  match grids.findSome? fun e => (gridNeighbour? n (Nat.pow 10 e)).map fun digits => (digits, e) with
  | some found => found
  | none => (n, 0)

end Stockroom
