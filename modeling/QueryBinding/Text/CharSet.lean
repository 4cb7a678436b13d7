/-! Sets of code points given by their borders. A border is a code point at
which membership changes, so a code point belongs to the set when an odd
number of borders lies at or below it. The borders are kept in increasing
order, and membership is decided by bisection. -/

namespace QueryBinding

structure CharSet where
  borders : Array Nat

namespace CharSet

/-- The first index in `lo ..< hi` whose border exceeds `c`, or `hi`. -/
def rank (borders : Array Nat) (c lo hi : Nat) : Nat :=
  if lo < hi then
    let mid := (lo + hi) / 2
    if borders.getD mid 0 ≤ c then rank borders c (mid + 1) hi
    else rank borders c lo mid
  else lo
  termination_by hi - lo
  decreasing_by all_goals omega

def contains (s : CharSet) (c : Char) : Bool :=
  rank s.borders c.toNat 0 s.borders.size % 2 == 1

end CharSet

end QueryBinding
