/-! # Sets of code points

A property of characters is kept as the list of its ranges of code points, in ascending order. -/

namespace Folio.Unicode

/-- A set of code points as ranges, both ends included. -/
abbrev Ranges := List (Nat × Nat)

/-- Whether a code point lies in one of the ranges. -/
def Ranges.contains (rs : Ranges) (n : Nat) : Bool :=
  rs.any fun r => r.1 ≤ n && n ≤ r.2

end Folio.Unicode
