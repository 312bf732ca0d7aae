import Ls8.Opcode
import Ls8.Text.Numeral

/-!
# Instructions

An instruction with its operands, its bytes and its assembler text. Register operands are kept as
the operand byte; whether it names a register is asked only when the instruction runs.

* `length_encode` — an instruction takes as many bytes as its opcode announces.
-/

namespace Ls8

/-- An instruction of the machine. -/
inductive Instruction where
  /-- Stops the machine. -/
  | halt
  /-- Puts a value into a register. -/
  | loadImmediate (reg value : UInt8)
  /-- Prints a register in decimal. -/
  | print (reg : UInt8)
  /-- Multiplies the first register by the second. -/
  | multiply (regA regB : UInt8)
  /-- Pushes a register onto the stack. -/
  | push (reg : UInt8)
  /-- Pops the top of the stack into a register. -/
  | pop (reg : UInt8)
  deriving DecidableEq

namespace Instruction

/-- The opcode of an instruction. -/
def opcode : Instruction → Opcode
  | halt => .hlt
  | loadImmediate _ _ => .ldi
  | print _ => .prn
  | multiply _ _ => .mul
  | push _ => .push
  | pop _ => .pop

/-- The operand bytes of an instruction, in the order in which they follow the opcode. -/
def operands : Instruction → List UInt8
  | halt => []
  | loadImmediate reg value => [reg, value]
  | print reg | push reg | pop reg => [reg]
  | multiply regA regB => [regA, regB]

/-- The bytes of an instruction. -/
def encode (i : Instruction) : List UInt8 := i.opcode.byte :: i.operands

/-- How far the program counter moves past an instruction. -/
def width (i : Instruction) : Nat := Opcode.width i.opcode.byte

/-- The mnemonic of an instruction. -/
def mnemonic (i : Instruction) : String := i.opcode.mnemonic

/-- The name of a register in assembler text; an operand that names none keeps its number. -/
def registerName (reg : UInt8) : String := "R" ++ toString reg.toNat

/-- The assembler text of an instruction, such as `LDI R0,0x08`. -/
def text (i : Instruction) : String :=
  match i with
  | halt => i.mnemonic
  | loadImmediate reg value =>
    i.mnemonic ++ " " ++ registerName reg ++ ",0x" ++ Numeral.hex 2 value.toNat
  | multiply regA regB => i.mnemonic ++ " " ++ registerName regA ++ "," ++ registerName regB
  | print reg | push reg | pop reg => i.mnemonic ++ " " ++ registerName reg

/-! ## Lemmas -/

theorem length_encode (i : Instruction) : i.encode.length = i.width := by
  cases i <;> simp [encode, operands, width, opcode, Opcode.width_byte]

theorem encode_ne_nil (i : Instruction) : i.encode ≠ [] := List.cons_ne_nil _ _

theorem one_le_width (i : Instruction) : 1 ≤ i.width := Nat.le_add_right 1 _

theorem width_le_three (i : Instruction) : i.width ≤ 3 := by
  cases i <;> simp [width, opcode, Opcode.width_byte]

/-- Every instruction but `HLT` has an operand. -/
theorem two_le_width {i : Instruction} (h : i ≠ halt) : 2 ≤ i.width := by
  cases i <;> simp_all [width, opcode, Opcode.width_byte]

end Instruction

end Ls8
