import Ls8.Decimal.Binary64

/-!
# Decimals with fixed places

A number rounded to a given count of decimal places. The rounding looks at the exact value, and a
value half way between two candidates goes to the even one.
-/

namespace Ls8.Fixed

/-- The integer nearest to `num / den`; of two equally near ones the even one. -/
def roundDiv (num den : Nat) : Nat :=
  let q := num / den
  let twice := 2 * (num % den)
  if twice < den ∨ (twice = den ∧ q % 2 = 0) then q else q + 1

/-- A number with `places` decimal places. -/
def text (places : Nat) (b : Binary64) : String :=
  let unit := Nat.pow 10 places
  let scaled := roundDiv (b.numerator * unit) b.denominator
  let fraction := (Nat.toDigits 10 (scaled % unit)).leftpad places '0'
  toString (scaled / unit) ++ "." ++ String.ofList fraction

end Ls8.Fixed
