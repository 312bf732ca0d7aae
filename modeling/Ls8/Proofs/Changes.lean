import Ls8.Proofs.Sequence

/-!
# What instructions change

An instruction other than `HLT` writes at most two registers and one cell, moves the program counter
past itself, and leaves everything else: the other registers, the other cells, run state, switches and
counters. What it writes is said here in terms of what could be read before, so it shows in which order
an instruction reads and writes.

That order matters where the operand is the stack pointer itself. `PUSH R7` stores the stack pointer of
before; `POP R7` first puts the popped byte into R7 and then adds one to it, so the old stack pointer is
gone.

Main results:

* `changes_effect` — an instruction other than `HLT` changes what it writes and the program counter.
* `execute_changes` — the changes of every instruction.
-/

namespace Ls8

/-- What is read at a place if some places were written over; of two writes to one place the first in
the list is meant. -/
def readOver {κ : Type} [DecidableEq κ] (old : κ → Except Fault UInt8) :
    List (κ × UInt8) → κ → Except Fault UInt8
  | [], place => old place
  | (k, v) :: writes, place => if place = k then .ok v else readOver old writes place

/-- A changed register reads as its new byte, and every other operand as before. -/
theorem Registers.read_put {r : Registers} {index v : UInt8} (h : index.toNat < count) (j : UInt8) :
    (r.put index v).read j = if j = index then .ok v else r.read j :=
  read_write (write_eq_put h) j

theorem Registers.read_setSp (r : Registers) (v j : UInt8) :
    (r.setSp v).read j = if j = spIndex then .ok v else r.read j :=
  read_write (r.write_spIndex v) j

namespace Machine

open Ls8.Action

/-- `m'` is `m` behind an instruction that wrote the given registers and cells: nothing else differs
but the program counter, which is right behind the bytes of the instruction. -/
structure Changes (m m' : Machine) (inst : Instruction) (registers : List (UInt8 × UInt8))
    (cells : List (Nat × UInt8)) : Prop where
  registers : ∀ j, m'.registers.read j = readOver m.registers.read registers j
  memory    : ∀ addr, m'.memory.read addr = readOver m.memory.read cells addr
  pc        : m'.pc = m.pc + inst.encode.length
  others    : m' = { m with registers := m'.registers, memory := m'.memory, pc := m'.pc }

variable {m : Machine} {inst : Instruction} {reg : UInt8}

/-- An instruction other than `HLT` changes the registers and cells that it writes, and the program
counter. -/
theorem changes_effect (hi : inst ≠ .halt) {registers : List (UInt8 × UInt8)}
    {cells : List (Nat × UInt8)}
    (hregisters : ∀ j, (m.effect inst).registers.read j = readOver m.registers.read registers j)
    (hcells : ∀ addr, (m.effect inst).memory.read addr = readOver m.memory.read cells addr) :
    Changes m (m.effect inst) inst registers cells := by
  refine ⟨hregisters, hcells, ?_, ?_⟩
  · rw [effect_pc hi, inst.length_encode]
  · -- run state, switches and counters are what only `HLT` could touch
    cases inst with
    | halt => exact absurd rfl hi
    | _ => rfl

/-! ## Instruction by instruction -/

theorem loadImmediate_changes (hreg : reg.toNat < Registers.count) (value : UInt8) :
    Changes m (m.effect (.loadImmediate reg value)) (.loadImmediate reg value) [(reg, value)] [] :=
  changes_effect (by nofun) (Registers.read_put hreg) fun _ => rfl

theorem print_changes : Changes m (m.effect (.print reg)) (.print reg) [] [] :=
  changes_effect (by nofun) (fun _ => rfl) fun _ => rfl

theorem multiply_changes (hreg : reg.toNat < Registers.count) (regB : UInt8) :
    Changes m (m.effect (.multiply reg regB)) (.multiply reg regB)
      [(reg, m.registers.value reg * m.registers.value regB)] [] :=
  changes_effect (by nofun) (Registers.read_put hreg) fun _ => rfl

/-- The byte that is stored was read before the stack pointer moved. -/
theorem push_changes :
    Changes m (m.effect (.push reg)) (.push reg) [(Registers.spIndex, m.sp - 1)]
      [((m.sp - 1).toNat, m.registers.value reg)] :=
  changes_effect (by nofun) (m.registers.read_setSp _) (m.memory.read_put _ _)

/-- `POP` of a register other than R7 moves the stack pointer that it found. -/
theorem pop_changes (hreg : reg.toNat < Registers.count) (hne : reg ≠ Registers.spIndex) :
    Changes m (m.effect (.pop reg)) (.pop reg)
      [(Registers.spIndex, m.sp + 1), (reg, m.memory.cell m.sp)] [] := by
  refine changes_effect (by nofun) (fun j => ?_) fun _ => rfl
  -- the stack pointer is looked up once more behind the first write, and is still the old one
  show ((m.registers.put reg (m.memory.cell m.sp)).setSp _).read j = _
  rw [Registers.read_setSp, Registers.read_put hreg, Registers.sp_put hreg hne]
  rfl

/-- `POP R7` moves the stack pointer that it popped. -/
theorem pop_sp_changes :
    Changes m (m.effect (.pop Registers.spIndex)) (.pop Registers.spIndex)
      [(Registers.spIndex, m.memory.cell m.sp + 1)] [] := by
  refine changes_effect (by nofun) (fun j => ?_) fun _ => rfl
  -- here the first write is to the stack pointer itself
  let popped := m.registers.setSp (m.memory.cell m.sp)
  have hpopped : popped.sp = m.memory.cell m.sp := m.registers.sp_setSp _
  show (popped.setSp (popped.sp + 1)).read j =
    if j = Registers.spIndex then .ok (m.memory.cell m.sp + 1) else m.registers.read j
  rw [hpopped, Registers.read_setSp, Registers.read_setSp]
  -- of the two writes to R7 the second one stays
  by_cases hj : j = Registers.spIndex
  · rw [if_pos hj, if_pos hj]
  · rw [if_neg hj, if_neg hj, if_neg hj]

theorem toNat_pred (a : UInt8) : ((a - 1).toNat : Int) = ((a.toNat : Int) - 1) % 256 := by
  have hlt := a.toNat_lt
  rw [UInt8.toNat_sub, UInt8.toNat_one]
  omega

/-! ## Every instruction -/

/--
**What instructions change.** Take an instruction that succeeds.

`LDI` writes its register, `PRN` nothing. `MUL` writes its first register, with the product modulo 256
of what its two registers held. `PUSH` moves the stack pointer down, modulo 256, and writes what its
register held to the cell there. `POP` of a register other than R7 writes what the cell under the stack
pointer held to that register and moves the stack pointer up, modulo 256; `POP R7` writes to R7 one more
than what that cell held, modulo 256. All these leave everything else but the program counter, which
moves past the bytes of the instruction.

`HLT` stops the machine, and moves the program counter to 0 if that is asked for.
-/
theorem execute_changes {s s' : Session} (h : execute inst s = .ok () s') :
    let m := s.machine
    let m' := s'.machine
    match inst with
    | .halt => m' = { m with state := .halted, pc := if m.haltResetsPc then 0 else m.pc }
    | .loadImmediate reg value => Changes m m' inst [(reg, value)] []
    | .print _ => Changes m m' inst [] []
    | .multiply regA regB =>
      ∃ a b product, m.registers.read regA = .ok a ∧ m.registers.read regB = .ok b ∧
        product.toNat = a.toNat * b.toNat % 256 ∧ Changes m m' inst [(regA, product)] []
    | .push reg =>
      ∃ v top, m.registers.read reg = .ok v ∧ (top.toNat : Int) = ((m.sp.toNat : Int) - 1) % 256 ∧
        Changes m m' inst [(Registers.spIndex, top)] [(top.toNat, v)]
    | .pop reg =>
      ∃ v next, m.memory.read m.sp.toNat = .ok v ∧
        if reg = Registers.spIndex then
          next.toNat = (v.toNat + 1) % 256 ∧ Changes m m' inst [(Registers.spIndex, next)] []
        else
          next.toNat = (m.sp.toNat + 1) % 256 ∧
            Changes m m' inst [(Registers.spIndex, next), (reg, v)] [] := by
  obtain ⟨hnamed, -, rfl⟩ := execute_eq_ok_iff.1 h
  intro m m'
  cases inst with
  | halt => rfl
  | loadImmediate reg value => exact loadImmediate_changes (hnamed.single rfl) value
  | print reg => exact print_changes
  | multiply regA regB =>
    obtain ⟨ha, hb⟩ := hnamed.both rfl
    exact ⟨_, _, _, Registers.read_eq_value ha, Registers.read_eq_value hb, UInt8.toNat_mul _ _,
      multiply_changes ha regB⟩
  | push reg =>
    have hreg : reg.toNat < Registers.count := hnamed.single rfl
    exact ⟨_, _, Registers.read_eq_value hreg, toNat_pred m.sp, push_changes⟩
  | pop reg =>
    -- the stack pointer that is moved is the popped byte, or the one of before
    by_cases hsp : reg = Registers.spIndex
    · subst hsp
      refine ⟨_, m.memory.cell m.sp + 1, m.memory.read_toNat m.sp, ?_⟩
      rw [if_pos rfl]
      exact ⟨UInt8.toNat_add _ _, pop_sp_changes⟩
    · refine ⟨_, m.sp + 1, m.memory.read_toNat m.sp, ?_⟩
      rw [if_neg hsp]
      exact ⟨UInt8.toNat_add _ _, pop_changes (hnamed.single rfl) hsp⟩

/-- A machine whose stack pointer stands at 0. -/
def emptyStackAtZero : Session where
  machine := ofConfig { cpu := { stackPointerInit := 0 } }

/-- `PUSH R7` stores the 0 in the last cell, and `POP R7` makes a stack pointer of 1 from it. -/
theorem execute_changes_emptyStackAtZero :
    ∃ s' s'', execute (.push 7) emptyStackAtZero = .ok () s' ∧ execute (.pop 7) s' = .ok () s'' ∧
      s'.machine.memory.read 255 = .ok 0 ∧ s'.machine.registers.read 7 = .ok 255 ∧
      s''.machine.registers.read 7 = .ok 1 := by
  have hnamed : ∀ inst ∈ [Instruction.push 7, .pop 7], inst.WellNamed := by decide +kernel
  obtain ⟨s'', hall⟩ := executeAll_total (s := emptyStackAtZero) hnamed rfl
  obtain ⟨s', hpush, hrest⟩ := executeAll_cons_ok_iff.1 hall
  have hpop : execute (.pop 7) s' = .ok () s'' := executeAll_singleton.1 hrest
  obtain ⟨v, top, hv, htop, hpushed⟩ := execute_changes hpush
  -- the old stack pointer was 0, and the new one is 255
  obtain rfl : 0 = v := Except.ok.inj hv
  obtain rfl : top = 255 := by
    have hbefore : emptyStackAtZero.machine.sp.toNat = 0 := rfl
    have hlast : (255 : UInt8).toNat = 255 := rfl
    exact UInt8.toNat_inj.1 (by omega)
  have hcell : s'.machine.memory.read 255 = .ok 0 := hpushed.memory 255
  have hsp : s'.machine.registers.read 7 = .ok 255 := hpushed.registers 7
  obtain ⟨v, next, hread, hpopped⟩ := execute_changes hpop
  have haliased : (7 : UInt8) = Registers.spIndex := rfl
  rw [if_pos haliased] at hpopped
  obtain ⟨hnext, hpopped⟩ := hpopped
  -- so the cell under the stack pointer is the one that was just written
  have hat : s'.machine.sp = 255 := Except.ok.inj hsp
  rw [hat] at hread
  obtain rfl : 0 = v := Except.ok.inj (hcell.symm.trans hread)
  obtain rfl : next = 1 := UInt8.toNat_inj.1 hnext
  exact ⟨s', s'', hpush, hpop, hcell, hsp, hpopped.registers 7⟩

end Machine

end Ls8
