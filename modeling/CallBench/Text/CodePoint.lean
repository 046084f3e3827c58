/-
# Properties of code points

A property of characters is kept as a list of inclusive ranges of code points.
-/

namespace CallBench.Text

/-- An inclusive range of code points. -/
abbrev CodePointRange : Type := Nat × Nat

/-- Whether a character lies in one of the ranges. -/
def inRanges (ranges : List CodePointRange) (c : Char) : Bool :=
  ranges.any fun range => range.1 ≤ c.toNat && c.toNat ≤ range.2

end CallBench.Text
