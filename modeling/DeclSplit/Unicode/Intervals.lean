/-!
Sets of code points given by their edges: a strictly increasing array in which a set begins at each
even index and ends before the code point at the following odd index.  A code point belongs to the set
exactly when an odd number of edges lie at or below it, and the search counts them by halving.
-/

namespace DeclSplit.Unicode

/-- The number of edges at or below `point` among those with index in `[low, high)`, plus `low`. -/
def countEdges (edges : Array Nat) (point : Nat) : (fuel low high : Nat) → Nat
  | 0, low, _ => low
  | fuel + 1, low, high =>
    if high ≤ low then low
    else
      let middle := (low + high) / 2
      if edges.getD middle 0 ≤ point then countEdges edges point fuel (middle + 1) high
      else countEdges edges point fuel low middle

def inIntervals (edges : Array Nat) (point : Nat) : Bool :=
  countEdges edges point 20 0 edges.size % 2 == 1

end DeclSplit.Unicode
