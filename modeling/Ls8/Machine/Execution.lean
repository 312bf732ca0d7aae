import Ls8.Machine.Session

/-!
# Execution

What each instruction does, one step of the machine, and a run until `HLT`.

A step shows its trace line if tracing is on, decodes the instruction at the program counter, logs
and executes it, and counts it once it is done. A run repeats that. Only `HLT` leaves the program
counter where it is, and every other instruction takes at least two of the 256 bytes, so a run ends.

* `step_running` — a step that leaves the machine running decodes inside memory and moves on.
* `runOn_eq` — a run is one step and, if the machine is still running, the run from there.
-/

namespace Ls8

open Ls8.Action

namespace Machine

/-! ## Instructions -/

/-- Combines two registers and puts the result into the first. -/
def alu (op : Arithmetic) (regA regB : UInt8) : Action Unit := do
  let a ← attempt (·.registers.read regA)
  let b ← attempt (·.registers.read regB)
  update (·.writeRegister regA (op.apply a b))

/-- Moves the stack pointer down and stores a byte there. -/
def push (value : UInt8) : Action Unit := do
  let sp := (← ask sp) - 1
  change (·.setSp sp)
  update (·.writeMemory sp.toNat value)

/-- Puts the byte under the stack pointer into a register, and moves the stack pointer up from
wherever that leaves it. -/
def pop (reg : UInt8) : Action Unit := do
  let value ← attempt fun m => m.memory.read m.sp.toNat
  update (·.writeRegister reg value)
  change fun m => m.setSp (m.sp + 1)

/-- A printed value: its decimal digits and a line feed. -/
def printedLine (value : UInt8) : List Char := (toString value.toNat).toList ++ ['\n']

/-- Executes an instruction and moves the program counter past it; `HLT` stops the machine. -/
def execute (inst : Instruction) : Action Unit := do
  match inst with
  | .halt => change halt
  | .loadImmediate reg value =>
    update (·.writeRegister reg value)
    change (·.advance inst)
  | .print reg =>
    write (printedLine (← attempt (·.registers.read reg)))
    change (·.advance inst)
  | .multiply regA regB =>
    alu .mul regA regB
    change (·.advance inst)
  | .push reg =>
    push (← attempt (·.registers.read reg))
    change (·.advance inst)
  | .pop reg =>
    pop reg
    change (·.advance inst)

/-! ## Where the program counter goes -/

theorem writeRegister_pc {m m' : Machine} {index value : UInt8}
    (h : m.writeRegister index value = .ok m') : m'.pc = m.pc := by
  unfold writeRegister at h
  cases hw : m.registers.write index value <;> simp [hw, Except.map] at h
  exact h ▸ rfl

theorem writeMemory_pc {m m' : Machine} {addr : Nat} {value : UInt8}
    (h : m.writeMemory addr value = .ok m') : m'.pc = m.pc := by
  unfold writeMemory at h
  cases hw : m.memory.write addr value <;> simp [hw, Except.map] at h
  exact h ▸ rfl

theorem execute_halt (s : Session) :
    execute .halt s = .ok () { s with machine := s.machine.halt } := rfl

/-- Instructions other than `HLT` move the program counter past themselves. -/
theorem execute_pc {inst : Instruction} {s s' : Session} {u : Unit} (hi : inst ≠ .halt)
    (h : execute inst s = .ok u s') : s'.machine.pc = s.machine.pc + inst.width := by
  cases inst with
  | halt => exact absurd rfl hi
  | loadImmediate reg value =>
    simp only [execute, bind_eq_ok_iff, update_eq_ok_iff, change_eq_ok_iff] at h
    obtain ⟨-, _, ⟨m, hw, rfl⟩, rfl⟩ := h
    simp [advance, writeRegister_pc hw]
  | print reg =>
    simp only [execute, bind_eq_ok_iff, attempt_eq_ok_iff, write_eq_ok_iff, change_eq_ok_iff] at h
    obtain ⟨v, _, ⟨-, rfl⟩, -, _, ⟨-, rfl⟩, rfl⟩ := h
    rfl
  | multiply regA regB =>
    simp only [execute, alu, bind_eq_ok_iff, attempt_eq_ok_iff, update_eq_ok_iff,
      change_eq_ok_iff] at h
    obtain ⟨-, _, ⟨a, _, ⟨-, rfl⟩, b, _, ⟨-, rfl⟩, m, hw, rfl⟩, rfl⟩ := h
    simp [advance, writeRegister_pc hw]
  | push reg =>
    simp only [execute, push, bind_eq_ok_iff, ask_eq_ok_iff, attempt_eq_ok_iff, update_eq_ok_iff,
      change_eq_ok_iff] at h
    obtain ⟨v, _, ⟨-, rfl⟩, -, _, ⟨sp, _, ⟨-, rfl⟩, -, _, rfl, m, hw, rfl⟩, rfl⟩ := h
    simp [advance, writeMemory_pc hw, setSp]
  | pop reg =>
    simp only [execute, pop, bind_eq_ok_iff, attempt_eq_ok_iff, update_eq_ok_iff,
      change_eq_ok_iff] at h
    obtain ⟨-, _, ⟨v, _, ⟨-, rfl⟩, -, _, ⟨m, hw, rfl⟩, rfl⟩, rfl⟩ := h
    simp [advance, writeRegister_pc hw, setSp]

/-! ## Steps and runs -/

/-- Writes the trace line of the present state if tracing is on. -/
def traceState : Action Unit := fun s =>
  if s.machine.tracing then notify (.trace s.machine.traceLine) s else .ok () s

theorem traceState_machine {s s' : Session} {u : Unit} (h : traceState s = .ok u s') :
    s'.machine = s.machine := by
  unfold traceState at h
  split at h
  · obtain rfl := notify_eq_ok_iff.1 h
    rfl
  · cases h
    rfl

/-- One instruction from start to end; the answer is the run state behind it. -/
def step : Action RunState := do
  traceState
  let inst ← attempt fun m => m.memory.decode m.pc
  notify (.event (.decoded (← ask Machine.pc) inst))
  execute inst
  change (·.retire inst)
  ask Machine.state

/-- A step that leaves the machine running found its instruction inside memory and moved past it. -/
theorem step_running {s s' : Session} (h : step s = .ok .running s') :
    s.machine.pc < Memory.size ∧ s.machine.pc < s'.machine.pc := by
  simp only [step, bind_eq_ok_iff, attempt_eq_ok_iff, ask_eq_ok_iff, notify_eq_ok_iff,
    change_eq_ok_iff] at h
  obtain ⟨_, _, ht, inst, _, ⟨hd, rfl⟩, pc, s₁, ⟨-, rfl⟩, -, _, rfl, _, s₂, he, -, _, rfl,
    hstate, rfl⟩ := h
  have hm : s₁.machine = s.machine := traceState_machine ht
  rw [← hm]
  refine ⟨Memory.lt_size_of_decode hd, ?_⟩
  by_cases hi : inst = .halt
  · subst hi
    rw [execute_halt] at he
    cases he
    cases hstate
  · have hpc := execute_pc hi he
    have := inst.one_le_width
    simp only [retire, Session.note] at hpc ⊢
    omega

/-- Steps until one halts or faults, and logs the halt. -/
def runOn (s : Session) : EStateM.Result Fault Session Unit :=
  match _h : step s with
  | .error f s' => .error f s'
  | .ok .halted s' => notify (.event (.halted s'.machine.statistics.retired)) s'
  | .ok .running s' => runOn s'
termination_by Memory.size - s.machine.pc
decreasing_by
  have := step_running _h
  omega

/-- Runs until `HLT`, whatever the run state was. -/
def run : Action Unit := do
  change ({ · with state := .running })
  runOn

/-- A run is one step and, if the machine is still running, the run from there. -/
theorem runOn_eq (s : Session) : runOn s =
    match step s with
    | .error f s' => .error f s'
    | .ok .halted s' => notify (.event (.halted s'.machine.statistics.retired)) s'
    | .ok .running s' => runOn s' := by
  rw [runOn]
  split <;> simp_all

end Machine

end Ls8
