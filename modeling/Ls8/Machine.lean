import Ls8.Arithmetic
import Ls8.Config
import Ls8.Instruction.Decode
import Ls8.Registers
import Ls8.Statistics

/-!
# The machine

Registers, program counter, memory and run state, with the two switches that the configuration sets
and the statistics. The value that a reset gives the stack pointer is fixed when the machine is
made.

The program counter stands for a word of 64 bits and is a number here. An instruction moves it by at
most three bytes, and nothing is decoded past the last cell of memory. So the two differ only if it is
set to one of the three greatest words and then an instruction is executed directly, or a trace line is
made, and nothing is meant to be said of that.
-/

namespace Ls8

/-- Whether the machine was stopped. -/
inductive RunState where
  | running
  /-- Stopped by `HLT`. -/
  | halted
  deriving DecidableEq

/-- The name of a run state. -/
def RunState.name : RunState → String
  | running => "Running"
  | halted => "Halted"

/-- The state of a machine. -/
structure Machine where
  registers : Registers
  /-- The program counter, below `2 ^ 64`. -/
  pc : Nat
  memory : Memory
  state : RunState
  /-- Whether a trace line is written before every instruction. -/
  tracing : Bool
  /-- Whether `HLT` moves the program counter back to 0. -/
  haltResetsPc : Bool
  statistics : Statistics
  /-- The stack pointer after a reset. -/
  spInit : UInt8
  deriving DecidableEq

namespace Machine

/-! ## Making and resetting -/

/-- Clears registers, program counter, run state and statistics; memory and switches stay. -/
def reset (m : Machine) : Machine :=
  { m with
    registers := Registers.zero.setSp m.spInit
    pc := 0
    state := .running
    statistics := .zero }

/-- A new machine with zeros in memory. -/
def ofConfig (c : Config) : Machine :=
  reset
    { registers := .zero
      pc := 0
      memory := .zero
      state := .running
      tracing := c.general.traceInstructions
      haltResetsPc := c.cpu.haltResetsPc
      statistics := .zero
      spInit := c.cpu.stackPointerInit }

/-! ## Parts -/

/-- The stack pointer. -/
def sp (m : Machine) : UInt8 := m.registers.sp

/-- Moves the stack pointer. -/
def setSp (m : Machine) (value : UInt8) : Machine :=
  { m with registers := m.registers.setSp value }

/-- Writes the register that an operand names. -/
def writeRegister (m : Machine) (index value : UInt8) : Except Fault Machine :=
  (m.registers.write index value).map fun r => { m with registers := r }

/-- Writes a cell of memory. -/
def writeMemory (m : Machine) (addr : Nat) (value : UInt8) : Except Fault Machine :=
  (m.memory.write addr value).map fun mem => { m with memory := mem }

/-- Copies an image into memory. -/
def loadImage (m : Machine) (image : List UInt8) : Except Fault Machine :=
  (m.memory.load image).map fun mem => { m with memory := mem }

/-- Moves the program counter past an instruction. -/
def advance (m : Machine) (inst : Instruction) : Machine :=
  { m with pc := m.pc + inst.width }

/-- Stops the machine. -/
def halt (m : Machine) : Machine :=
  { m with state := .halted, pc := if m.haltResetsPc then 0 else m.pc }

/-- Counts a retired instruction. -/
def retire (m : Machine) (inst : Instruction) : Machine :=
  { m with statistics := m.statistics.record inst }

/-- Whether the machine was stopped by `HLT`. -/
def isHalted (m : Machine) : Bool := m.state == .halted

/-! ## Text -/

/-- How many bytes of memory a trace line shows. -/
def traceWindow : Nat := 3

/-- The byte at an address as two digits, or dashes outside memory. -/
def cellText (m : Machine) (addr : Nat) : String :=
  match m.memory.read addr with
  | .ok b => Numeral.upperHex 2 b.toNat
  | .error _ => "--"

/-- The state before an instruction in one line: the program counter, the bytes there, the
registers. -/
def traceLine (m : Machine) : String :=
  let bytes := (List.range traceWindow).map fun k => m.cellText (m.pc + k)
  let registers := m.registers.toList.map fun r => Numeral.upperHex 2 r.toNat
  "TRACE: " ++ Numeral.upperHex 2 m.pc ++ " | " ++ String.intercalate " " bytes ++ " | "
    ++ String.intercalate " " registers

/-- Program counter, stack pointer, run state and registers, for reports of a fault. -/
def dump (m : Machine) : String :=
  "PC=0x" ++ Numeral.hex 2 m.pc ++ " SP=0x" ++ Numeral.hex 2 m.sp.toNat ++ " state="
    ++ m.state.name ++ "\n" ++ m.registers.text

end Machine

end Ls8
