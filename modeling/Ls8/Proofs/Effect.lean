import Ls8.Machine.Execution

/-!
# The effect of an instruction

`execute` goes through reads and writes that may fail, one after the other. Here its whole result is
said at once: first the register operands are checked, then the line of a `PRN` is written, and only
then does the machine change, to `effect`, which is a function of the machine alone.

The order matters for `PUSH` and `POP`, which move the stack pointer next to an access of memory:
that access cannot fail, because every byte is an address.

Main results:

* `execute_of_wellNamed`, `execute_of_stray` — an instruction whose operands name registers writes
  and has its effect; any other fails at once.
* `execute_eq_ok_iff`, `execute_eq_error_iff` — when an instruction succeeds and when it faults, and
  what is left then.
* `effect_pc`, `effect_state` — instructions other than `HLT` move on and keep the run state.
-/

namespace Ls8

/-! ## Registers without faults -/

namespace Registers

/-- The byte in a register; zero for an operand that names none. -/
def value (r : Registers) (index : UInt8) : UInt8 := (r.read index).toOption.getD 0

/-- The registers with one of them changed; an operand that names none changes nothing. -/
def put (r : Registers) (index value : UInt8) : Registers :=
  (r.write index value).toOption.getD r

theorem read_eq_value {r : Registers} {index : UInt8} (h : index.toNat < count) :
    r.read index = .ok (r.value index) := by
  rw [value, read_of_lt h]
  rfl

theorem write_eq_put {r : Registers} {index v : UInt8} (h : index.toNat < count) :
    r.write index v = .ok (r.put index v) := by
  rw [put, write_of_lt h]
  rfl

/-- A changed register holds the new byte, and every other operand reads as before. -/
theorem value_put {r : Registers} {index v : UInt8} (h : index.toNat < count) (j : UInt8) :
    (r.put index v).value j = if j = index then v else r.value j := by
  have hread := read_write (write_eq_put (r := r) (v := v) h) j
  rw [value, hread, value]
  split <;> rfl

theorem sp_eq_value (r : Registers) : r.sp = r.value spIndex := rfl

theorem setSp_eq_put (r : Registers) (v : UInt8) : r.setSp v = r.put spIndex v := rfl

/-- Changing a register other than `R7` leaves the stack pointer. -/
theorem sp_put {r : Registers} {index v : UInt8} (h : index.toNat < count) (hne : index ≠ spIndex) :
    (r.put index v).sp = r.sp := by
  rw [sp_eq_value, value_put h, if_neg (Ne.symm hne), sp_eq_value]

end Registers

/-! ## Memory at a byte -/

namespace Memory

/-- The byte in the cell that a byte addresses. -/
def cell (m : Memory) (a : UInt8) : UInt8 := m.cells.get ⟨a.toNat, toNat_lt_size a⟩

/-- Memory with the cell that a byte addresses changed. -/
def put (m : Memory) (a v : UInt8) : Memory := ⟨m.cells.set a.toNat v (toNat_lt_size a)⟩

theorem read_toNat (m : Memory) (a : UInt8) : m.read a.toNat = .ok (m.cell a) :=
  read_of_lt (toNat_lt_size a)

theorem write_toNat (m : Memory) (a v : UInt8) : m.write a.toNat v = .ok (m.put a v) :=
  write_of_lt (toNat_lt_size a)

/-- After a change the addressed cell holds the new byte and every other address its old one. -/
theorem read_put (m : Memory) (a v : UInt8) (addr : Nat) :
    (m.put a v).read addr = if addr = a.toNat then .ok v else m.read addr :=
  read_write (write_toNat m a v) addr

theorem cell_put (m : Memory) (a v b : UInt8) :
    (m.put a v).cell b = if b = a then v else m.cell b := by
  have hread := read_put m a v b.toNat
  rw [read_toNat, read_toNat] at hread
  by_cases hba : b = a
  · rw [if_pos (congrArg UInt8.toNat hba)] at hread
    rw [if_pos hba]
    exact Except.ok.inj hread
  · rw [if_neg fun h => hba (UInt8.toNat_inj.1 h)] at hread
    rw [if_neg hba]
    exact Except.ok.inj hread

/-- A run of bytes stays where it is if none of its cells is changed. -/
theorem Holds.put {m : Memory} {addr : Nat} {bs : List UInt8} (h : m.Holds addr bs) {a : UInt8}
    (v : UInt8) (ha : ¬ (addr ≤ a.toNat ∧ a.toNat < addr + bs.length)) :
    (m.put a v).Holds addr bs := by
  rw [holds_iff] at h ⊢
  intro k hk
  rw [read_put, if_neg (by omega)]
  exact h k hk

end Memory

/-! ## Empty writes -/

namespace Sink

theorem hasRoomFor_nil (k : Sink) : k.hasRoomFor [] = true := by
  unfold hasRoomFor
  cases k.room with
  | none => rfl
  | some n => exact decide_eq_true (Nat.zero_le n)

theorem write_nil (k : Sink) : k.write [] = k := by
  obtain ⟨written, room⟩ := k
  cases room <;> simp [write, accepts]

end Sink

/-! ## Operands -/

namespace Instruction

/-- The operands that are to name registers, in the order in which they follow the opcode. The
value of `LDI` is none of them. -/
def registerOperands : Instruction → List UInt8
  | halt => []
  | loadImmediate reg _ => [reg]
  | print reg | push reg | pop reg => [reg]
  | multiply regA regB => [regA, regB]

/-- Every register operand names a register. -/
def WellNamed (i : Instruction) : Prop := ∀ r ∈ i.registerOperands, r.toNat < Registers.count

instance (i : Instruction) : Decidable i.WellNamed :=
  inferInstanceAs (Decidable (∀ r ∈ i.registerOperands, r.toNat < Registers.count))

/-- The first register operand that names no register. -/
def stray? (i : Instruction) : Option UInt8 :=
  i.registerOperands.find? fun r => decide (Registers.count ≤ r.toNat)

/-- The operand of an instruction that has one names a register. -/
theorem WellNamed.single {i : Instruction} {reg : UInt8} (h : i.WellNamed)
    (hi : i.registerOperands = [reg]) : reg.toNat < Registers.count := by
  apply h
  rw [hi]
  exact List.mem_singleton.2 rfl

/-- So do both operands of an instruction that has two. -/
theorem WellNamed.both {i : Instruction} {regA regB : UInt8} (h : i.WellNamed)
    (hi : i.registerOperands = [regA, regB]) :
    regA.toNat < Registers.count ∧ regB.toNat < Registers.count := by
  rw [WellNamed, hi] at h
  exact ⟨h regA (List.mem_cons_self ..), h regB (List.mem_cons_of_mem _ (List.mem_singleton.2 rfl))⟩

theorem wellNamed_halt : halt.WellNamed := fun _ h => nomatch h

theorem stray?_eq_none_iff {i : Instruction} : i.stray? = none ↔ i.WellNamed := by
  rw [stray?, List.find?_eq_none, WellNamed]
  refine forall₂_congr fun r _ => ?_
  rw [decide_eq_true_eq, Nat.not_le]

end Instruction

namespace Machine

open Ls8.Action

/-! ## The effect -/

/-- The machine after an instruction whose operands name registers. -/
def effect (m : Machine) (inst : Instruction) : Machine :=
  match inst with
  | .halt => m.halt
  | .loadImmediate reg value =>
    advance { m with registers := m.registers.put reg value } inst
  | .print _ => m.advance inst
  | .multiply regA regB =>
    let product := m.registers.value regA * m.registers.value regB
    advance { m with registers := m.registers.put regA product } inst
  | .push reg =>
    advance
      { m with
        registers := m.registers.setSp (m.sp - 1)
        memory := m.memory.put (m.sp - 1) (m.registers.value reg) } inst
  | .pop reg =>
    let registers := m.registers.put reg (m.memory.cell m.sp)
    advance { m with registers := registers.setSp (registers.sp + 1) } inst

/-- What an instruction prints. -/
def printed (m : Machine) : Instruction → List Char
  | .print reg => printedLine (m.registers.value reg)
  | _ => []

/-- Instructions other than `HLT` move the program counter past themselves. -/
theorem effect_pc {inst : Instruction} (hi : inst ≠ .halt) (m : Machine) :
    (m.effect inst).pc = m.pc + inst.width := by
  cases inst with
  | halt => exact absurd rfl hi
  | _ => rfl

/-- Instructions other than `HLT` leave the run state. -/
theorem effect_state {inst : Instruction} (hi : inst ≠ .halt) (m : Machine) :
    (m.effect inst).state = m.state := by
  cases inst with
  | halt => exact absurd rfl hi
  | _ => rfl

theorem effect_statistics (inst : Instruction) (m : Machine) :
    (m.effect inst).statistics = m.statistics := by
  cases inst <;> rfl

/-- Only `PUSH` changes memory, and only the cell under the stack pointer. -/
theorem effect_memory (inst : Instruction) (m : Machine) :
    (m.effect inst).memory =
      match inst with
      | .push reg => m.memory.put (m.sp - 1) (m.registers.value reg)
      | _ => m.memory := by
  cases inst <;> rfl

/-- Only `PRN` prints. -/
theorem exists_print_of_printed_ne_nil {m : Machine} {inst : Instruction}
    (h : m.printed inst ≠ []) : ∃ reg, inst = .print reg := by
  cases inst with
  | print reg => exact ⟨reg, rfl⟩
  | _ => exact absurd rfl h

/-- There is always room for nothing, so only the line of a `PRN` can be refused. -/
theorem exists_print_of_full {m : Machine} {inst : Instruction} {k : Sink}
    (h : k.hasRoomFor (m.printed inst) = false) : ∃ reg, inst = .print reg := by
  apply exists_print_of_printed_ne_nil
  intro hnil
  rw [hnil, k.hasRoomFor_nil] at h
  cases h

end Machine

/-! ## Actions one after the other -/

namespace Action

variable {α β : Type} {s s' : Session}

theorem bind_of_ok {x : Action α} {f : α → Action β} {a : α} (h : x s = .ok a s') :
    (x >>= f) s = f a s' := by
  simp only [bind, EStateM.bind, h]

theorem bind_of_error {x : Action α} {f : α → Action β} {e : Fault} (h : x s = .error e s') :
    (x >>= f) s = .error e s' := by
  simp only [bind, EStateM.bind, h]

theorem attempt_of_ok {f : Machine → Except Fault α} {a : α} (h : f s.machine = .ok a) :
    attempt f s = .ok a s :=
  attempt_eq_ok_iff.2 ⟨h, rfl⟩

theorem attempt_of_error {f : Machine → Except Fault α} {e : Fault} (h : f s.machine = .error e) :
    attempt f s = .error e s :=
  attempt_eq_error_iff.2 ⟨h, rfl⟩

theorem update_of_ok {f : Machine → Except Fault Machine} {m : Machine} (h : f s.machine = .ok m) :
    update f s = .ok () { s with machine := m } :=
  update_eq_ok_iff.2 ⟨m, h, rfl⟩

theorem update_of_error {f : Machine → Except Fault Machine} {e : Fault}
    (h : f s.machine = .error e) : update f s = .error e s :=
  update_eq_error_iff.2 ⟨h, rfl⟩

/-- Writing nothing does nothing, also on a stream that is full. -/
theorem write_nil (s : Session) : write [] s = .ok () s := by
  rw [write, if_pos (Sink.hasRoomFor_nil _), Sink.write_nil]

end Action

namespace Machine

open Ls8.Action

/-! ## The parts of an instruction -/

theorem writeRegister_of_lt {m : Machine} {reg v : UInt8} (h : reg.toNat < Registers.count) :
    m.writeRegister reg v = .ok { m with registers := m.registers.put reg v } := by
  rw [writeRegister, Registers.write_eq_put h]
  rfl

theorem writeRegister_of_le {m : Machine} {reg v : UInt8} (h : Registers.count ≤ reg.toNat) :
    m.writeRegister reg v = .error (.invalidRegister reg) := by
  rw [writeRegister, Registers.write_of_le h]
  rfl

theorem alu_of_lt {op : Arithmetic} {regA regB : UInt8} (ha : regA.toNat < Registers.count)
    (hb : regB.toNat < Registers.count) (s : Session) :
    alu op regA regB s = .ok () { s with machine :=
      { s.machine with
        registers := s.machine.registers.put regA
          (op.apply (s.machine.registers.value regA) (s.machine.registers.value regB)) } } := by
  rw [alu, bind_of_ok (attempt_of_ok (Registers.read_eq_value ha)),
    bind_of_ok (attempt_of_ok (Registers.read_eq_value hb))]
  exact update_of_ok (writeRegister_of_lt ha)

/-- A byte is an address, so `PUSH` always finds its cell. -/
theorem push_eq (v : UInt8) (s : Session) :
    push v s = .ok () { s with machine :=
      { s.machine with
        registers := s.machine.registers.setSp (s.machine.sp - 1)
        memory := s.machine.memory.put (s.machine.sp - 1) v } } := by
  rw [push, bind_of_ok (ask_eq_ok_iff.2 ⟨rfl, rfl⟩),
    bind_of_ok (a := ()) (change_eq_ok_iff.2 rfl)]
  apply update_of_ok
  rw [writeMemory, Memory.write_toNat]
  rfl

theorem pop_of_lt {reg : UInt8} (h : reg.toNat < Registers.count) (s : Session) :
    pop reg s = .ok () { s with machine :=
      let registers := s.machine.registers.put reg (s.machine.memory.cell s.machine.sp)
      { s.machine with registers := registers.setSp (registers.sp + 1) } } := by
  rw [pop, bind_of_ok (attempt_of_ok (Memory.read_toNat _ _)),
    bind_of_ok (update_of_ok (writeRegister_of_lt h))]
  rfl

/-! ## Execution by effect -/

/-- An instruction that prints nothing writes nothing. -/
theorem write_printed_change {inst : Instruction} {s : Session} (h : s.machine.printed inst = []) :
    (do write (s.machine.printed inst); change (·.effect inst) : Action Unit) s =
      .ok () { s with machine := s.machine.effect inst } := by
  rw [h, bind_of_ok (write_nil s)]
  rfl

/-- An instruction whose operands name registers writes what it prints and, once that was taken,
has its effect. -/
theorem execute_of_wellNamed {inst : Instruction} (h : inst.WellNamed) (s : Session) :
    execute inst s =
      (do write (s.machine.printed inst); change (·.effect inst) : Action Unit) s := by
  -- whatever could fail before the write depends on the operands alone
  cases inst with
  | halt =>
    rw [write_printed_change rfl]
    rfl
  | loadImmediate reg v =>
    have hreg : reg.toNat < Registers.count := h.single rfl
    rw [write_printed_change rfl, execute, bind_of_ok (update_of_ok (writeRegister_of_lt hreg))]
    rfl
  | print reg =>
    have hreg : reg.toNat < Registers.count := h.single rfl
    rw [execute, bind_of_ok (attempt_of_ok (Registers.read_eq_value hreg))]
    rfl
  | multiply regA regB =>
    obtain ⟨ha, hb⟩ := h.both rfl
    rw [write_printed_change rfl, execute, bind_of_ok (alu_of_lt ha hb s)]
    rfl
  | push reg =>
    have hreg : reg.toNat < Registers.count := h.single rfl
    rw [write_printed_change rfl, execute,
      bind_of_ok (attempt_of_ok (Registers.read_eq_value hreg)), bind_of_ok (push_eq _ s)]
    rfl
  | pop reg =>
    have hreg : reg.toNat < Registers.count := h.single rfl
    rw [write_printed_change rfl, execute, bind_of_ok (pop_of_lt hreg s)]
    rfl

/-- The operand at fault is one of the register operands and names no register. -/
theorem stray?_spec {inst : Instruction} {r : UInt8} (h : inst.stray? = some r) :
    r ∈ inst.registerOperands ∧ Registers.count ≤ r.toNat := by
  refine ⟨List.mem_of_find?_eq_some h, ?_⟩
  have hfound := List.find?_some h
  exact of_decide_eq_true hfound

/-- The first operand is read first, so it is the one at fault if neither names a register. -/
theorem alu_of_stray {op : Arithmetic} {regA regB r : UInt8}
    (h : (Instruction.multiply regA regB).stray? = some r) (s : Session) :
    alu op regA regB s = .error (.invalidRegister r) s := by
  rw [Instruction.stray?, Instruction.registerOperands, List.find?_cons] at h
  by_cases ha : Registers.count ≤ regA.toNat
  · -- the second operand is not looked at
    rw [decide_eq_true ha] at h
    obtain rfl := Option.some.inj h
    rw [alu, bind_of_error (attempt_of_error (Registers.read_of_le ha))]
  · rw [decide_eq_false ha] at h
    obtain rfl := List.mem_singleton.1 (List.mem_of_find?_eq_some h)
    have hfound := List.find?_some h
    have hb : Registers.count ≤ r.toNat := of_decide_eq_true hfound
    rw [alu, bind_of_ok (attempt_of_ok (Registers.read_eq_value (Nat.not_le.1 ha))),
      bind_of_error (attempt_of_error (Registers.read_of_le hb))]

/-- An operand that names no register is found before anything was written or changed. -/
theorem execute_of_stray {inst : Instruction} {r : UInt8} (h : inst.stray? = some r) (s : Session) :
    execute inst s = .error (.invalidRegister r) s := by
  obtain ⟨hmem, hr⟩ := stray?_spec h
  cases inst with
  | halt => cases hmem
  | loadImmediate reg v =>
    obtain rfl := List.mem_singleton.1 hmem
    rw [execute, bind_of_error (update_of_error (writeRegister_of_le hr))]
  | print reg =>
    obtain rfl := List.mem_singleton.1 hmem
    rw [execute, bind_of_error (attempt_of_error (Registers.read_of_le hr))]
  | multiply regA regB => rw [execute, bind_of_error (alu_of_stray h s)]
  | push reg =>
    obtain rfl := List.mem_singleton.1 hmem
    rw [execute, bind_of_error (attempt_of_error (Registers.read_of_le hr))]
  | pop reg =>
    obtain rfl := List.mem_singleton.1 hmem
    -- `POP` reads memory first, but that cannot fail
    have hpop : pop r s = .error (.invalidRegister r) s := by
      rw [pop, bind_of_ok (attempt_of_ok (Memory.read_toNat _ _)),
        bind_of_error (update_of_error (writeRegister_of_le hr))]
    rw [execute, bind_of_error hpop]

/-- An instruction succeeds exactly if its operands name registers and the stream takes what it
prints; what it leaves is its effect and its text. -/
theorem execute_eq_ok_iff {inst : Instruction} {s s' : Session} {u : Unit} :
    execute inst s = .ok u s' ↔
      inst.WellNamed ∧ s.output.hasRoomFor (s.machine.printed inst) = true ∧
        s' = { s with
          machine := s.machine.effect inst
          output := s.output.write (s.machine.printed inst) } := by
  cases hstray : inst.stray? with
  | some r =>
    have hnot : ¬ inst.WellNamed := by
      rw [← Instruction.stray?_eq_none_iff, hstray]
      exact Option.some_ne_none r
    rw [execute_of_stray hstray]
    constructor
    · intro h
      cases h
    · exact fun h => absurd h.1 hnot
  | none =>
    have hnamed : inst.WellNamed := Instruction.stray?_eq_none_iff.1 hstray
    simp only [execute_of_wellNamed hnamed, bind_eq_ok_iff, write_eq_ok_iff, change_eq_ok_iff,
      hnamed, true_and]
    -- what is left is the write and the change, of which only the write has a condition
    constructor
    · rintro ⟨_, _, ⟨hroom, rfl⟩, rfl⟩
      exact ⟨hroom, rfl⟩
    · rintro ⟨hroom, rfl⟩
      exact ⟨(), _, ⟨hroom, rfl⟩, rfl⟩

/-- An instruction faults on an operand that names no register, or if its operands are right and
the stream does not take all that it prints. The machine is as before in either case. -/
theorem execute_eq_error_iff {inst : Instruction} {s s' : Session} {f : Fault} :
    execute inst s = .error f s' ↔
      (∃ r, inst.stray? = some r ∧ f = .invalidRegister r ∧ s' = s) ∨
        inst.WellNamed ∧ s.output.hasRoomFor (s.machine.printed inst) = false ∧
          f = .outputRefused ∧ s' = { s with output := s.output.write (s.machine.printed inst) } := by
  cases hstray : inst.stray? with
  | some r =>
    have hnot : ¬ inst.WellNamed := by
      rw [← Instruction.stray?_eq_none_iff, hstray]
      exact Option.some_ne_none r
    rw [execute_of_stray hstray]
    constructor
    · intro h
      cases h
      exact Or.inl ⟨r, rfl, rfl, rfl⟩
    · rintro (⟨_, hr, rfl, rfl⟩ | ⟨h, -⟩)
      · rw [Option.some.inj hr]
      · exact absurd h hnot
  | none =>
    have hnamed : inst.WellNamed := Instruction.stray?_eq_none_iff.1 hstray
    simp only [execute_of_wellNamed hnamed, bind_eq_error_iff, write_eq_error_iff]
    -- either the write fails or the change does, and a change never does
    constructor
    · rintro (h | ⟨_, _, -, h⟩)
      · exact Or.inr ⟨hnamed, h⟩
      · cases h
    · rintro (⟨_, h, -⟩ | ⟨-, h⟩)
      · cases h
      · exact Or.inl h

end Machine

end Ls8
