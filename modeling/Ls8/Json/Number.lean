import Ls8.Json.Failure

/-!
# Numbers

Reading a number behind its sign. Digits are gathered into a 64-bit significand; a digit that would
pass 64 bits, and every digit behind it, counts only as a power of ten in front of the point and not
at all behind it. A number without point and power is an integer if 64 bits hold it; every other
number is a double, worked out from significand and power with one multiplication or division by a
power of ten wherever the power is at most 308.
-/

namespace Ls8.Json

/-! ## Digits -/

/-- Whether a byte is a decimal digit. -/
def isDigit (b : UInt8) : Bool := ascii '0' ≤ b && b ≤ ascii '9'

/-- The value of a digit. -/
def digitValue (b : UInt8) : Nat := b.toNat - 48

/-- Whether the bytes begin with a digit. -/
def startsWithDigit (bytes : Bytes) : Bool := bytes.head?.any isDigit

/-- Adds digits to a value as long as it stays within the limit; what is left begins with the first
digit that does not fit. -/
def gather (limit value : Nat) : Bytes → Nat × Bytes
  | [] => (value, [])
  | d :: ds =>
    let next := 10 * value + digitValue d
    if next ≤ limit then gather limit next ds else (value, d :: ds)

/-- The greatest significand, which fills 64 bits. -/
def greatestSignificand : Nat := 0xFFFFFFFFFFFFFFFF

/-- The greatest power of ten that is written out in full. -/
def greatestPower : Nat := 0x7FFFFFFF

/-- The size of the least integer of 64 bits with a sign. -/
def greatestNegative : Nat := 0x8000000000000000

/-! ## Doubles -/

/-- Powers of ten up to this one are doubles. -/
def tableSize : Nat := 308

/-- The double nearest to a power of ten. -/
def powerOfTen (k : Nat) : Float := Float.ofScientific 1 false k

/-- `x` times a power of ten; nothing if that is past the greatest double. -/
def scale (x : Float) (power : Int) : Option Float :=
  if power.natAbs ≤ tableSize then
    if 0 ≤ power then
      let y := x * powerOfTen power.natAbs
      if y.isInf then none else some y
    else some (x / powerOfTen power.natAbs)
  else if x == 0 then some x
  else if 0 ≤ power then none
  else scale (x / powerOfTen tableSize) (power + tableSize)
termination_by power.natAbs
decreasing_by
  simp only [tableSize] at *
  omega

/-- The double of a significand and a power of ten, read up to `rest`. -/
def readDouble (negative : Bool) (significand : Nat) (power : Int) : Reader Number := fun rest =>
  match scale (Float.ofNat significand) power with
  | none => failHere .numberOutOfRange rest
  | some x => .ok (.double (if negative then -x else x), rest)

/-! ## Parts of a number -/

/-- Reads the digits of a power of ten. A power too great to be written out makes a number out of
range as soon as that shows, unless the number is zero either way. -/
def readPowerDigits (negative : Bool) (significand : Nat) (power : Int) (powerNegative : Bool) :
    Reader Number := fun bytes =>
  let digits := bytes.takeWhile isDigit
  let rest := bytes.dropWhile isDigit
  let (value, left) := gather greatestPower 0 digits
  if left.isEmpty then
    let power := if powerNegative then power - value else power + value
    readDouble negative significand power rest
  else if significand ≠ 0 ∧ !powerNegative then
    failHere .numberOutOfRange (left.tail ++ rest)
  else .ok (.double (if negative then -0.0 else 0.0), rest)

/-- Reads the power of ten behind its letter. -/
def readPower (negative : Bool) (significand : Nat) (power : Int) : Reader Number := fun bytes =>
  let powerNegative := bytes.head? == some (ascii '-')
  let signed := powerNegative || bytes.head? == some (ascii '+')
  match if signed then bytes.tail else bytes with
  | [] => failHere (.endOfInput .value) []
  | d :: rest =>
    if isDigit d then readPowerDigits negative significand power powerNegative (d :: rest)
    else failHere .invalidNumber rest

/-- Whether the bytes begin with the letter of a power of ten. -/
def startsPower (bytes : Bytes) : Bool :=
  bytes.head? == some (ascii 'e') || bytes.head? == some (ascii 'E')

/-- Reads the digits behind the point. -/
def readFraction (negative : Bool) (significand : Nat) (power : Int) : Reader Number := fun bytes =>
  let digits := bytes.takeWhile isDigit
  let rest := bytes.dropWhile isDigit
  if digits.isEmpty then
    failAtNext (if rest.isEmpty then .endOfInput .value else .invalidNumber) rest
  else
    let (significand, left) := gather greatestSignificand significand digits
    let power := power - (digits.length - left.length : Nat)
    if startsPower rest then readPower negative significand power rest.tail
    else readDouble negative significand power rest

/-- Reads what follows the digits before the point. -/
def readTail (negative : Bool) (significand : Nat) (power : Nat) : Reader Number := fun rest =>
  if rest.head? == some (ascii '.') then readFraction negative significand power rest.tail
  else if startsPower rest then readPower negative significand power rest.tail
  else if power ≠ 0 then readDouble negative significand power rest
  else if !negative then .ok (.integer significand, rest)
  else if 0 < significand ∧ significand ≤ greatestNegative then .ok (.integer (-significand), rest)
  else readDouble negative significand 0 rest

/-- Reads a number behind its sign. -/
def readNumber (negative : Bool) : Reader Number := fun bytes =>
  match bytes with
  | [] => failHere (.endOfInput .value) []
  | d :: rest =>
    if d = ascii '0' then
      if startsWithDigit rest then failAtNext .invalidNumber rest
      else readTail negative 0 0 rest
    else if isDigit d then
      let digits := (d :: rest).takeWhile isDigit
      let (significand, left) := gather greatestSignificand 0 digits
      readTail negative significand left.length ((d :: rest).dropWhile isDigit)
    else failHere .invalidNumber rest

end Ls8.Json
