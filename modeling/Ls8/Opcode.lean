/-!
# Opcodes

An opcode byte has the layout `AABCDDDD`: `AA` counts the operand bytes that follow, `B` marks
arithmetic, `C` marks instructions that set the program counter, and `DDDD` identifies the
instruction. Six bytes are opcodes; the fields are defined for every byte.

* `ofByte?_eq_some_iff` — a byte is an opcode exactly if it is the byte of one.
* `width_byte` — the operand field of each opcode counts the operands that it takes.
-/

namespace Ls8

/-- The six operations of the instruction set. -/
inductive Opcode where
  | hlt
  | ldi
  | prn
  | mul
  | push
  | pop
  deriving DecidableEq

namespace Opcode

/-! ## Bytes -/

/-- The byte that stands for an opcode in memory. -/
def byte : Opcode → UInt8
  | hlt => 0b00000001
  | ldi => 0b10000010
  | prn => 0b01000111
  | mul => 0b10100010
  | push => 0b01000101
  | pop => 0b01000110

/-- Every opcode, once. -/
def all : List Opcode := [hlt, ldi, prn, mul, push, pop]

/-- The opcode that a byte stands for, if it is one. -/
def ofByte? (b : UInt8) : Option Opcode := all.find? (·.byte == b)

/-- The mnemonic of an opcode. -/
def mnemonic : Opcode → String
  | hlt => "HLT"
  | ldi => "LDI"
  | prn => "PRN"
  | mul => "MUL"
  | push => "PUSH"
  | pop => "POP"

/-- Distinct opcodes have distinct bytes. -/
theorem byte_inj {a b : Opcode} (h : a.byte = b.byte) : a = b := by
  cases a <;> cases b <;> first | rfl | exact absurd h (by decide)

theorem byte_inj_iff {a b : Opcode} : a.byte = b.byte ↔ a = b :=
  ⟨byte_inj, fun h => h ▸ rfl⟩

theorem ofByte?_byte (op : Opcode) : ofByte? op.byte = some op := by
  cases op <;> decide

/-- A byte is read as `op` exactly if it is the byte of `op`. -/
theorem ofByte?_eq_some_iff {b : UInt8} {op : Opcode} : ofByte? b = some op ↔ b = op.byte := by
  constructor
  · intro h
    have := List.find?_some h
    exact (eq_of_beq this).symm
  · rintro rfl
    exact ofByte?_byte op

/-- A byte is no opcode exactly if it differs from all six. -/
theorem ofByte?_eq_none_iff {b : UInt8} : ofByte? b = none ↔ ∀ op : Opcode, b ≠ op.byte := by
  constructor
  · rintro h op rfl
    rw [ofByte?_byte] at h
    cases h
  · intro h
    cases hb : ofByte? b with
    | none => rfl
    | some op => exact absurd (ofByte?_eq_some_iff.1 hb) (h op)

/-! ## Fields of an opcode byte -/

/-- How many operand bytes follow (bits 6 and 7). -/
def operandCount (b : UInt8) : Nat := (b >>> 6).toNat

/-- How many bytes the instruction takes, its opcode included. -/
def width (b : UInt8) : Nat := 1 + operandCount b

/-- Whether the arithmetic unit does the work (bit 5). -/
def isArithmetic (b : UInt8) : Bool := b &&& 0b00100000 != 0

/-- Whether the instruction sets the program counter itself (bit 4). -/
def setsPc (b : UInt8) : Bool := b &&& 0b00010000 != 0

/-- Which instruction it is among those of its class (bits 0 to 3). -/
def identifier (b : UInt8) : UInt8 := b &&& 0b00001111

/-- `HLT` stands alone, `LDI` and `MUL` take two operands, the others one. -/
theorem width_byte (op : Opcode) : width op.byte =
    match op with
    | hlt => 1
    | ldi | mul => 3
    | prn | push | pop => 2 := by
  cases op <;> decide

end Opcode

end Ls8
