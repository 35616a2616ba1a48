/-! Sets of characters given by the code points at which membership changes. -/

namespace Jenkinsfile.Text

/-- A set of code points.  It holds those from the first bound to before the second, from the third
to before the fourth, and so on; the bounds ascend. -/
structure CodeSet where
  bounds : Array Nat

namespace CodeSet

/-- The number of bounds in positions `lo` to `hi` that do not exceed `n`, plus `lo`, by halving. -/
def rankFrom (s : CodeSet) (n lo hi : Nat) : Nat :=
  if lo < hi then
    let mid := (lo + hi) / 2
    if s.bounds.getD mid 0 ≤ n then s.rankFrom n (mid + 1) hi else s.rankFrom n lo mid
  else lo
termination_by hi - lo

/-- The number of bounds that do not exceed `n`. -/
def rank (s : CodeSet) (n : Nat) : Nat := s.rankFrom n 0 s.bounds.size

/-- A character belongs to the set when an odd number of bounds does not exceed it. -/
def contains (s : CodeSet) (c : Char) : Bool := s.rank c.toNat % 2 == 1

end CodeSet

end Jenkinsfile.Text
