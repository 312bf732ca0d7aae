import Ls8.Text.Numeral

/-!
# Faults

Everything that can go wrong inside the machine, by cause. Faults are values: an operation that
faults says so and leaves its reader to decide what to do.
-/

namespace Ls8

/-- Why an operation of the machine could not be done. -/
inductive Fault where
  /-- A memory access at an address past the last cell. -/
  | addressOutOfRange (addr : Nat)
  /-- A program image longer than memory. -/
  | programTooLarge (length capacity : Nat)
  /-- A register operand that names none of the eight registers. -/
  | invalidRegister (index : UInt8)
  /-- A byte at `pc` that begins no instruction. -/
  | unknownOpcode (opcode : UInt8) (pc : Nat)
  /-- A name that is no arithmetic operation. -/
  | unsupportedArithmetic (name : String)
  /-- The output stream did not take all of a printed line. -/
  | outputRefused
  deriving DecidableEq

/-- The sentence that reports a fault. -/
def Fault.message : Fault → String
  | .addressOutOfRange addr => "memory address 0x" ++ Numeral.hex 4 addr ++ " is out of range"
  | .programTooLarge length capacity =>
    "program of " ++ toString length ++ " bytes does not fit in " ++ toString capacity
      ++ " bytes of memory"
  | .invalidRegister index => "register index " ++ toString index.toNat ++ " is out of range"
  | .unknownOpcode opcode pc =>
    "unknown instruction 0b" ++ Numeral.binary 8 opcode.toNat ++ " at address 0x"
      ++ Numeral.hex 2 pc
  | .unsupportedArithmetic name => "unsupported ALU operation `" ++ name ++ "`"
  | .outputRefused => "failed to write program output: failed to write whole buffer"

end Ls8
