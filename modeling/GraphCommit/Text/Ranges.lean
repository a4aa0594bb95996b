/-!
# Classes of characters as ranges

A class of characters is given by the ranges of code points that it holds, in ascending order,
both ends of a range included.
-/

namespace GraphCommit.Text

/-- A class of characters: the ranges of its code points, in ascending order. -/
structure Ranges where
  ranges : List (Nat × Nat)

namespace Ranges

/-- Whether a range of the class holds the character. -/
def contains (r : Ranges) (c : Char) : Bool :=
  r.ranges.any fun range => range.1 ≤ c.toNat && c.toNat ≤ range.2

end Ranges

end GraphCommit.Text
