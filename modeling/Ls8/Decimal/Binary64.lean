/-!
# Doubles as integers

The size of a finite double, exactly: a natural number times a power of two. Decimal text is worked
out from these integers, so that no rounding happens but the one asked for.
-/

namespace Ls8

/-- The number `significand * 2 ^ exponent`. -/
structure Binary64 where
  significand : Nat
  exponent : Int

namespace Binary64

/-- The leading bit of a significand, which the format leaves out. -/
def hiddenBit : Nat := 0x10000000000000

/-- The size of a finite double; its sign is dropped. -/
def ofFloat (x : Float) : Binary64 :=
  let bits := x.toBits.toNat
  let fraction : Nat := bits % hiddenBit
  let biased : Nat := bits / hiddenBit % 0x800
  if biased = 0 then ⟨fraction, -1074⟩ else ⟨hiddenBit + fraction, (biased : Int) - 1075⟩

/-- Whether the sign bit of a double is set, as it also is in a negative zero. -/
def isNegative (x : Float) : Bool := x.toBits.toNat / 0x8000000000000000 == 1

/-- The numerator of the number as a fraction of integers. -/
def numerator (b : Binary64) : Nat := b.significand * Nat.pow 2 b.exponent.toNat

/-- The denominator of the number as a fraction of integers. -/
def denominator (b : Binary64) : Nat := Nat.pow 2 (-b.exponent).toNat

end Binary64

end Ls8
