import Ls8.Proofs.Ending

/-!
# The faults of a step

Several things can be wrong with a step at once: a `PRN` may name no register while the stream is full,
a `MUL` may name two registers that do not exist, a byte that is no opcode may stand at the very end of
memory. Which of them is reported is fixed by the order of the checks. What cannot be decoded comes
first, then the register operands in their order, and at last the stream; each is looked at only if
nothing was wrong before.

Nothing else can be wrong. `PUSH` and `POP` reach memory through the stack pointer, and every byte is
an address, so there is no stack pointer with which they fail.

Main results:

* `step_addressOutOfRange_iff`, `step_unknownOpcode_iff`, `step_stray_iff`, `step_refused_iff` — when a
  step reports which fault.
* `step_succeeds_iff` — when it reports none.
* `step_faults_exactly` — all faults of a step.
-/

namespace Ls8

namespace Machine

open Ls8.Action

variable {s s' : Session} {inst : Instruction} {f : Fault}

/-! ## Execution -/

/-- No instruction is executed into a fault of memory, whatever the stack pointer is. -/
theorem execute_ne_addressOutOfRange (inst : Instruction) (s s' : Session) (addr : Nat) :
    execute inst s ≠ .error (.addressOutOfRange addr) s' := by
  intro h
  rcases execute_eq_error_iff.1 h with ⟨_, -, heq, -⟩ | ⟨-, -, heq, -⟩
  · cases heq
  · cases heq

/-- The stream does not take the whole line that the instruction prints. -/
def Refused (s : Session) (inst : Instruction) : Prop :=
  ∃ reg v, inst = .print reg ∧ s.machine.registers.read reg = .ok v ∧
    s.output.hasRoomFor (printedLine v) = false

theorem refused_iff (hnamed : inst.WellNamed) :
    Refused s inst ↔ s.output.hasRoomFor (s.machine.printed inst) = false := by
  constructor
  · rintro ⟨reg, v, rfl, hv, hfull⟩
    rw [Registers.read_eq_value (hnamed.single rfl)] at hv
    obtain rfl := Except.ok.inj hv
    exact hfull
  · intro hfull
    obtain ⟨reg, rfl⟩ := exists_print_of_full hfull
    exact ⟨reg, _, rfl, Registers.read_eq_value (hnamed.single rfl), hfull⟩

/-- A line that is refused is that of a register. -/
theorem Refused.wellNamed (h : Refused s inst) : inst.WellNamed := by
  obtain ⟨reg, v, rfl, hv, -⟩ := h
  intro r hr
  obtain rfl := List.mem_singleton.1 hr
  -- a register that could be read is there
  rcases Nat.lt_or_ge r.toNat Registers.count with hlt | hge
  · exact hlt
  · rw [Registers.read_of_le hge] at hv
    cases hv

/-! ## Faults one by one -/

/-- Neither the operands nor the stream are to blame for any other fault. -/
theorem step_undecoded_iff (hstray : ∀ r, f ≠ .invalidRegister r) (hrefused : f ≠ .outputRefused) :
    (∃ s', step s = .error f s') ↔ s.machine.memory.decode s.machine.pc = .error f := by
  constructor
  · rintro ⟨s', h⟩
    rcases step_fails_iff.1 h with ⟨hd, -⟩ | ⟨_, r, -, -, hf, -⟩ | ⟨_, -, -, -, hf, -⟩
    · exact hd
    · exact absurd hf (hstray r)
    · exact absurd hf hrefused
  · exact fun hd => ⟨_, step_fails_iff.2 (.inl ⟨hd, rfl⟩)⟩

theorem step_addressOutOfRange_iff {addr : Nat} :
    (∃ s', step s = .error (.addressOutOfRange addr) s') ↔
      addr = max s.machine.pc Memory.size ∧ s.machine.memory.CutOff s.machine.pc := by
  have hdecode := step_undecoded_iff (s := s) (f := .addressOutOfRange addr) nofun nofun
  exact hdecode.trans Memory.decode_eq_addressOutOfRange_iff

theorem step_unknownOpcode_iff {b : UInt8} {addr : Nat} :
    (∃ s', step s = .error (.unknownOpcode b addr) s') ↔
      addr = s.machine.pc ∧ s.machine.memory.Unknown s.machine.pc b := by
  have hdecode := step_undecoded_iff (s := s) (f := .unknownOpcode b addr) nofun nofun
  exact hdecode.trans Memory.decode_eq_unknownOpcode_iff

/-- An operand is at fault if the instruction decodes; nothing was written then. -/
theorem step_stray_iff {r : UInt8} :
    step s = .error (.invalidRegister r) s' ↔
      ∃ inst, s.machine.memory.decode s.machine.pc = .ok inst ∧ inst.stray? = some r ∧
        s' = s.announce inst := by
  constructor
  · intro h
    rcases step_fails_iff.1 h with ⟨hd, -⟩ | ⟨inst, _, hd, hr, heq, hs'⟩ | ⟨_, -, -, -, heq, -⟩
    · -- decoding does not look at what an operand names
      simp [Memory.decode_eq_error_iff] at hd
    · cases heq
      exact ⟨inst, hd, hr, hs'⟩
    · cases heq
  · rintro ⟨inst, hd, hr, hs'⟩
    exact step_fails_iff.2 (.inr (.inl ⟨inst, r, hd, hr, rfl, hs'⟩))

theorem step_refused_iff :
    (∃ s', step s = .error .outputRefused s') ↔
      ∃ inst, s.machine.memory.decode s.machine.pc = .ok inst ∧ Refused s inst := by
  constructor
  · rintro ⟨s', h⟩
    rcases step_fails_iff.1 h with ⟨hd, -⟩ | ⟨_, _, -, -, heq, -⟩ | ⟨inst, hd, hnamed, hfull, -⟩
    · -- nor does it ask the stream
      simp [Memory.decode_eq_error_iff] at hd
    · cases heq
    · exact ⟨inst, hd, (refused_iff hnamed).2 hfull⟩
  · rintro ⟨inst, hd, hrefused⟩
    have hnamed := hrefused.wellNamed
    exact ⟨_, step_fails_iff.2 (.inr (.inr ⟨inst, hd, hnamed, (refused_iff hnamed).1 hrefused, rfl, rfl⟩))⟩

theorem step_succeeds_iff :
    (∃ r s', step s = .ok r s') ↔
      ∃ inst, s.machine.memory.decode s.machine.pc = .ok inst ∧ inst.stray? = none ∧
        ¬ Refused s inst := by
  constructor
  · rintro ⟨r, s', h⟩
    obtain ⟨inst, hd, hnamed, hroom, -, -⟩ := step_eq_ok_iff.1 h
    refine ⟨inst, hd, Instruction.stray?_eq_none_iff.2 hnamed, ?_⟩
    rw [refused_iff hnamed, hroom]
    exact Bool.false_ne_true.symm
  · rintro ⟨inst, hd, hstray, hroom⟩
    have hnamed := Instruction.stray?_eq_none_iff.1 hstray
    rw [refused_iff hnamed, Bool.not_eq_false] at hroom
    exact ⟨_, _, step_eq_ok_iff.2 ⟨inst, hd, hnamed, hroom, rfl, rfl⟩⟩

/-! ## All faults -/

/-- A step that fails could not decode, or names an operand, or could not print. -/
theorem step_error_cases (h : step s = .error f s') :
    (∃ addr, f = .addressOutOfRange addr) ∨ (∃ b, f = .unknownOpcode b s.machine.pc) ∨
      (∃ r, f = .invalidRegister r) ∨ f = .outputRefused := by
  rcases step_fails_iff.1 h with ⟨hd, -⟩ | ⟨_, r, -, -, rfl, -⟩ | ⟨_, -, -, -, rfl, -⟩
  · rcases Memory.decode_eq_error_iff.1 hd with ⟨b, -, rfl⟩ | ⟨-, rfl⟩
    · exact .inr (.inl ⟨b, rfl⟩)
    · exact .inl ⟨_, rfl⟩
  · exact .inr (.inr (.inl ⟨r, rfl⟩))
  · exact .inr (.inr (.inr rfl))

/--
**The faults of a step.** A step reports an address outside memory exactly if the program counter is
one, or if the operands of the opcode there run past the end; a byte that is no opcode exactly if such a
byte stands there; an operand exactly if an instruction decodes and that operand is the first of its
register operands to name no register, and then nothing was written; the stream exactly if a `PRN` of a
register decodes and the stream does not take the whole line. It succeeds exactly if an instruction
decodes, its register operands name registers and no line is refused. There is no other fault.

An address outside memory is never reported by executing an instruction, so by no `PUSH` and no `POP`.
-/
theorem step_faults_exactly (s : Session) :
    let m := s.machine
    (∀ addr, (∃ s', step s = .error (.addressOutOfRange addr) s') ↔
      addr = max m.pc Memory.size ∧
        (Memory.size ≤ m.pc ∨
          ∃ op : Opcode, m.memory.read m.pc = .ok op.byte ∧
            Memory.size < m.pc + Opcode.width op.byte)) ∧
    (∀ b addr, (∃ s', step s = .error (.unknownOpcode b addr) s') ↔
      addr = m.pc ∧ m.memory.read m.pc = .ok b ∧ ∀ op : Opcode, b ≠ op.byte) ∧
    (∀ r, (∃ s', step s = .error (.invalidRegister r) s') ↔
      ∃ inst, m.memory.decode m.pc = .ok inst ∧
        inst.registerOperands.find? (fun reg => decide (Registers.count ≤ reg.toNat)) = some r) ∧
    (∀ r s', step s = .error (.invalidRegister r) s' → s'.output = s.output) ∧
    ((∃ s', step s = .error .outputRefused s') ↔
      ∃ reg v, m.memory.decode m.pc = .ok (.print reg) ∧ m.registers.read reg = .ok v ∧
        s.output.hasRoomFor (printedLine v) = false) ∧
    ((∃ r s', step s = .ok r s') ↔
      ∃ inst, m.memory.decode m.pc = .ok inst ∧ inst.WellNamed ∧
        ∀ reg v, inst = .print reg → m.registers.read reg = .ok v →
          s.output.hasRoomFor (printedLine v) = true) ∧
    (∀ f s', step s = .error f s' →
      (∃ addr, f = .addressOutOfRange addr) ∨ (∃ b, f = .unknownOpcode b m.pc) ∨
        (∃ r, f = .invalidRegister r) ∨ f = .outputRefused) ∧
    ∀ inst u u' addr, execute inst u ≠ .error (.addressOutOfRange addr) u' := by
  intro m
  refine ⟨fun _ => step_addressOutOfRange_iff, fun _ _ => step_unknownOpcode_iff, ?_, ?_, ?_, ?_,
    fun _ _ => step_error_cases, execute_ne_addressOutOfRange⟩
  · -- an operand that names no register
    intro r
    constructor
    · rintro ⟨s', h⟩
      obtain ⟨inst, hd, hr, -⟩ := step_stray_iff.1 h
      exact ⟨inst, hd, hr⟩
    · rintro ⟨inst, hd, hr⟩
      exact ⟨_, step_stray_iff.2 ⟨inst, hd, hr, rfl⟩⟩
  · -- and nothing is written for it, as it was only announced
    intro r s' h
    obtain ⟨inst, -, -, rfl⟩ := step_stray_iff.1 h
    exact s.announce_output inst
  · -- a stream that does not take a line
    rw [step_refused_iff]
    constructor
    · rintro ⟨_, hd, reg, v, rfl, hv, hfull⟩
      exact ⟨reg, v, hd, hv, hfull⟩
    · rintro ⟨reg, v, hd, hv, hfull⟩
      exact ⟨_, hd, reg, v, rfl, hv, hfull⟩
  · -- and no fault
    rw [step_succeeds_iff]
    refine exists_congr fun inst => and_congr_right fun _ => ?_
    rw [Instruction.stray?_eq_none_iff]
    refine and_congr_right fun _ => ?_
    simp only [Refused, not_exists, not_and, Bool.not_eq_false]
    rfl

/-- A `PRN` that names no register in front of a stream that is full. -/
def straysOnFullStream : Session where
  machine := { ofConfig {} with memory := (Memory.zero.load [71, 9]).toOption.getD .zero }
  output := { room := some 0 }

/-- Both the operand and the stream are wrong; the operand is reported, and the stream is not asked. -/
theorem step_faults_exactly_straysOnFullStream :
    ∃ s', step straysOnFullStream = .error (.invalidRegister 9) s' ∧
      s'.output = straysOnFullStream.output ∧
      ¬ ∃ u, step straysOnFullStream = .error .outputRefused u := by
  obtain ⟨-, -, hstray, hunwritten, -⟩ := step_faults_exactly straysOnFullStream
  have hdecode : straysOnFullStream.machine.memory.decode straysOnFullStream.machine.pc =
      .ok (.print 9) := by
    refine Memory.decode_eq_ok_iff.2 ⟨?_, ?_, trivial⟩
    · exact Memory.read_eq_ok_iff.2 ⟨by decide, by decide +kernel⟩
    · exact Memory.read_eq_ok_iff.2 ⟨by decide, by decide +kernel⟩
  obtain ⟨s', hs'⟩ := (hstray 9).2 ⟨.print 9, hdecode, rfl⟩
  refine ⟨s', hs', hunwritten 9 s' hs', ?_⟩
  rintro ⟨u, hu⟩
  rw [hs'] at hu
  cases hu

end Machine

end Ls8
