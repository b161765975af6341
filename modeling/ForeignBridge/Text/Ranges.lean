/-!
Properties of characters given as ascending ranges of code points.
-/

namespace ForeignBridge

/-- Ascending disjoint ranges of code points, both ends included. -/
abbrev CodeRanges := Array (Nat × Nat)

namespace CodeRanges

def search (ranges : CodeRanges) (code : Nat) : Nat → Nat → Nat → Bool
  | 0, _, _ => false
  | fuel + 1, low, high =>
    if high ≤ low then false else
    let middle := (low + high) / 2
    let (first, last) := ranges.getD middle (0, 0)
    if code < first then ranges.search code fuel low middle
    else if last < code then ranges.search code fuel (middle + 1) high
    else true

/-- Whether a character lies in one of the ranges, by bisection. -/
def holds (ranges : CodeRanges) (c : Char) : Bool :=
  ranges.search c.toNat (ranges.size + 1) 0 ranges.size

end CodeRanges

end ForeignBridge
