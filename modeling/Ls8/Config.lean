/-!
# Configuration

The settings a machine is made with. Every setting has a default, so a configuration names only
what differs from it.
-/

namespace Ls8

/-- Settings that concern the emulator as a whole. -/
structure Config.General where
  /-- Whether a trace line is written before every instruction. -/
  traceInstructions : Bool := false
  deriving DecidableEq

/-- Settings of the processor. -/
structure Config.Cpu where
  /-- Where the stack pointer stands on an empty stack. -/
  stackPointerInit : UInt8 := 0xF4
  /-- Whether `HLT` moves the program counter back to 0. -/
  haltResetsPc : Bool := false
  deriving DecidableEq

/-- The settings a machine is made with. -/
structure Config where
  general : Config.General := {}
  cpu : Config.Cpu := {}
  deriving DecidableEq

end Ls8
