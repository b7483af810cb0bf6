/-!
# Ranges of code points

A property of characters is given by the ranges of code points that have it.
-/

namespace EventGates.Text

/-- The first and the last code point of a range. -/
abbrev CodeRange := Nat × Nat

namespace CodeRange

/-- A code point lies in one of the ranges. -/
def holds (rs : List CodeRange) (n : Nat) : Bool := rs.any fun r => r.1 ≤ n && n ≤ r.2

end CodeRange

end EventGates.Text
