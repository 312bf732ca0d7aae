/-!
# Ranges of characters

Classes of characters given as ranges of code points, as the tables of a standard list them.
-/

namespace Ls8.Text

/-- Whether a character's code point lies in one of the ranges, ends included. -/
def inRanges (ranges : List (Nat × Nat)) (c : Char) : Bool :=
  ranges.any fun r => r.1 ≤ c.toNat && c.toNat ≤ r.2

end Ls8.Text
