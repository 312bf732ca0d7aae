import Ls8.Decimal.Binary64

/-!
# Shortest decimals

The decimal with the fewest digits that reads back as a given double. Reading rounds to the nearest
double, so every decimal inside the double's rounding interval will do; the ends of the interval
belong to it exactly if the significand is even. Powers of ten are tried from the coarsest down: on
each grid only the two neighbours of the value can be nearest, and the first grid that has a
neighbour inside the interval gives the answer.
-/

namespace Ls8.Shortest

/-- The decimal `digits * 10 ^ exponent`. -/
structure Decimal where
  digits : Nat
  exponent : Int

/-- Whether the double below is half as far away as the one above, as it is at a power of two. -/
def hasNarrowGapBelow (b : Binary64) : Bool :=
  b.significand == Binary64.hiddenBit && b.exponent > -1074

/-- The best of the two neighbours of `b` on the grid of `10 ^ k`, if one reads back as `b`. -/
def onGrid? (b : Binary64) (k : Int) : Option Nat :=
  -- Everything is counted in quarters of the last binary place, over a common denominator.
  let scale := Nat.pow 2 (b.exponent - 2).toNat * Nat.pow 10 (-k).toNat
  let unit := Nat.pow 2 (2 - b.exponent).toNat * Nat.pow 10 k.toNat
  let value := 4 * b.significand * scale
  let low := (4 * b.significand - if hasNarrowGapBelow b then 1 else 2) * scale
  let high := (4 * b.significand + 2) * scale
  let inside (c : Nat) : Bool :=
    if b.significand % 2 = 0 then low ≤ c * unit && c * unit ≤ high
    else low < c * unit && c * unit < high
  let below := value / unit
  let distBelow := value - below * unit
  let distAbove := (below + 1) * unit - value
  match inside below, inside (below + 1) with
  | true, true =>
    if distBelow < distAbove ∨ (distBelow = distAbove ∧ below % 2 = 0) then some below
    else some (below + 1)
  | true, false => some below
  | false, true => some (below + 1)
  | false, false => none

/-- The powers of ten that doubles reach, the coarsest first. -/
def grids : List Int := (List.range 1400).map fun (j : Nat) => 309 - (j : Int)

/-- Takes zeros at the end of the digits into the exponent. -/
def normalise (digits : Nat) (exponent : Int) : Decimal :=
  if digits ≠ 0 ∧ digits % 10 = 0 then normalise (digits / 10) (exponent + 1)
  else ⟨digits, exponent⟩
termination_by digits
decreasing_by omega

/-- The shortest decimal that reads back as `b`. -/
def ofBinary (b : Binary64) : Decimal :=
  match grids.findSome? fun k => (onGrid? b k).map fun c => normalise c k with
  | some d => d
  | none => ⟨b.significand, b.exponent⟩

end Ls8.Shortest
