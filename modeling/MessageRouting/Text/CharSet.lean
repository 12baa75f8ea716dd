/-!
# Sets of characters

A set of code points is held as the increasing list of the points where membership changes: it
begins at the bounds of even position and ends before those of odd position.
-/

namespace MessageRouting

/-- A set of characters, by the code points where membership changes. -/
structure CharSet where
  /-- The bounds, increasing. -/
  bounds : Array Nat

namespace CharSet

/-- The least position in `lo … hi` whose bound exceeds `n`, found by halving. -/
def firstAbove (bounds : Array Nat) (n lo hi : Nat) : Nat :=
  if lo < hi then
    let mid := (lo + hi) / 2
    if bounds.getD mid 0 ≤ n then firstAbove bounds n (mid + 1) hi
    else firstAbove bounds n lo mid
  else lo
termination_by hi - lo

/-- Whether the set has a character: the number of bounds up to it is odd. -/
def contains (s : CharSet) (c : Char) : Bool :=
  firstAbove s.bounds c.toNat 0 s.bounds.size % 2 = 1

end CharSet

end MessageRouting
