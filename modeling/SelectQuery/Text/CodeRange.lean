/-!
# Sets of characters as ranges of code points

Unicode properties are published as ranges of code points. A property is held here the same way, as
a list of closed ranges; `CodeRange.covers` asks whether a character falls into one of them.
-/

namespace SelectQuery.Text

/-- The code points from `first` to `last`, both included. -/
structure CodeRange where
  first : Nat
  last : Nat
  deriving DecidableEq

namespace CodeRange

def contains (r : CodeRange) (code : Nat) : Bool := r.first ≤ code && code ≤ r.last

def covers (ranges : List CodeRange) (c : Char) : Bool := ranges.any (·.contains c.toNat)

end CodeRange

end SelectQuery.Text
