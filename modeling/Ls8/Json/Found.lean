import Ls8.Decimal.Shortest
import Ls8.Text.Quoted

/-!
# What was found

The kinds of JSON value, as a reader reports them when it expected another kind. Numbers are
integers or doubles; a double is shown by the shortest decimal that reads back.
-/

namespace Ls8.Json

/-- A number as read: an integer of at most 64 bits, or a double. -/
inductive Number where
  | integer (n : Int)
  | double (x : Float)

/-- A value that stands where another kind was expected. -/
inductive Found where
  | null
  | boolean (b : Bool)
  | number (n : Number)
  | text (s : String)
  | sequence
  | map

/-! ## Doubles as text -/

namespace Number

/-- Decimal points from `1e-5` up are written out with zeros. -/
def leastPoint : Int := -4

/-- Decimal points below `1e16` are written out with zeros. -/
def greatestPoint : Int := 16

/-- Digits with a point behind the first `point` of them, and zeros where digits are missing. -/
def positional (digits : List Char) (point : Int) : List Char :=
  if point ≤ 0 then ['0', '.'] ++ List.replicate (-point).toNat '0' ++ digits
  else
    let whole := (digits.take point.toNat).rightpad point.toNat '0'
    let fraction := digits.drop point.toNat
    whole ++ ['.'] ++ if fraction.isEmpty then ['0'] else fraction

/-- Digits with a point behind the first, and the power of ten behind them, such as `1.5e+300`. -/
def exponential (digits : List Char) (point : Int) : List Char :=
  let power := point - 1
  let fraction := if digits.length ≤ 1 then [] else '.' :: digits.drop 1
  let sign := if power < 0 then '-' else '+'
  digits.take 1 ++ fraction ++ ['e', sign] ++ Nat.toDigits 10 power.natAbs

/-- A double as text: the shortest decimal that reads back, with a point or a power of ten. -/
def doubleText (x : Float) : String :=
  let b := Binary64.ofFloat x
  let sign := if Binary64.isNegative x then ['-'] else []
  let body :=
    if b.significand = 0 then ['0', '.', '0']
    else
      let d := Shortest.ofBinary b
      let digits := Nat.toDigits 10 d.digits
      let point := (digits.length : Int) + d.exponent
      if leastPoint ≤ point ∧ point ≤ greatestPoint then positional digits point
      else exponential digits point
  String.ofList (sign ++ body)

/-- A number with its kind. -/
def describe : Number → String
  | integer n => "integer `" ++ toString n ++ "`"
  | double x => "floating point `" ++ doubleText x ++ "`"

end Number

/-- The words for a value in a report. -/
def Found.describe : Found → String
  | null => "null"
  | boolean b => "boolean `" ++ toString b ++ "`"
  | number n => n.describe
  | text s => "string " ++ Text.quote s
  | sequence => "sequence"
  | map => "map"

end Ls8.Json
