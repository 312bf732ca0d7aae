import Ls8.Fault

/-!
# Arithmetic

Addition, subtraction and multiplication of bytes. Results wrap modulo 256, as wide as a register.
-/

namespace Ls8

/-- What the arithmetic unit can do with two bytes. -/
inductive Arithmetic where
  | add
  | sub
  | mul
  deriving DecidableEq

namespace Arithmetic

/-- The result, modulo 256. -/
def apply : Arithmetic → UInt8 → UInt8 → UInt8
  | add, a, b => a + b
  | sub, a, b => a - b
  | mul, a, b => a * b

/-- The upper-case name of an operation. -/
def name : Arithmetic → String
  | add => "ADD"
  | sub => "SUB"
  | mul => "MUL"

/-- The operation of a name in any mixture of upper and lower case (of ASCII letters). -/
def ofName (s : String) : Except Fault Arithmetic :=
  match [add, sub, mul].find? (·.name == s.toUpper) with
  | some op => .ok op
  | none => .error (.unsupportedArithmetic s)

end Arithmetic

end Ls8
