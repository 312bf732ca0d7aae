import Ls8.Instruction
import Ls8.Memory

/-!
# Decoding

The instruction that starts at an address of memory. The opcode byte is read first; a byte that is
no opcode is refused before any operand is fetched, and operands are fetched in order.

* `decode_eq_ok_iff` — an instruction decodes exactly where its bytes stand.
* `lt_size_of_decode`, `add_width_le_of_decode` — it starts and ends inside memory.
* `decode_eq_error_iff` — what does not decode is no opcode, or is cut off by the end of memory.
-/

namespace Ls8

/-- The instruction at `pc`, or why there is none. -/
def Memory.decode (m : Memory) (pc : Nat) : Except Fault Instruction := do
  let b ← m.read pc
  match Opcode.ofByte? b with
  | none => throw (.unknownOpcode b pc)
  | some .hlt => return .halt
  | some .ldi => return .loadImmediate (← m.read (pc + 1)) (← m.read (pc + 2))
  | some .prn => return .print (← m.read (pc + 1))
  | some .mul => return .multiply (← m.read (pc + 1)) (← m.read (pc + 2))
  | some .push => return .push (← m.read (pc + 1))
  | some .pop => return .pop (← m.read (pc + 1))

namespace Memory

/-- An instruction decodes at `pc` exactly if its bytes stand there. -/
theorem decode_eq_ok_iff {m : Memory} {pc : Nat} {i : Instruction} :
    m.decode pc = .ok i ↔ m.Holds pc i.encode := by
  unfold decode
  cases hb : m.read pc with
  | error f => simp [Instruction.encode, Holds, hb, bind, Except.bind]
  | ok b =>
    cases hop : Opcode.ofByte? b with
    | none =>
      have hne := Opcode.ofByte?_eq_none_iff.1 hop i.opcode
      simp [Instruction.encode, Holds, hb, hop, hne, bind, Except.bind, throw, throwThe,
        MonadExceptOf.throw]
    | some op =>
      obtain rfl := Opcode.ofByte?_eq_some_iff.1 hop
      simp only [Instruction.encode, Holds, hb, hop, Except.ok.injEq, bind, Except.bind, pure,
        Except.pure]
      cases op <;> cases i <;>
        simp only [Instruction.opcode, Instruction.operands, Holds, and_true, true_and,
          Opcode.byte_inj_iff, reduceCtorEq, false_and, Nat.add_assoc, Nat.reduceAdd] <;>
        (repeat' split) <;> simp_all

/-- An instruction that decodes starts inside memory. -/
theorem lt_size_of_decode {m : Memory} {pc : Nat} {i : Instruction} (h : m.decode pc = .ok i) :
    pc < size :=
  (read_eq_ok_iff.1 (decode_eq_ok_iff.1 h).1).1

/-- An instruction that decodes ends inside memory. -/
theorem add_width_le_of_decode {m : Memory} {pc : Nat} {i : Instruction}
    (h : m.decode pc = .ok i) : pc + i.width ≤ size := by
  rw [← i.length_encode]
  exact (decode_eq_ok_iff.1 h).add_length_le i.encode_ne_nil

/-! ## Where nothing decodes -/

/-- A byte stands at `pc` that is no opcode. -/
def Unknown (m : Memory) (pc : Nat) (b : UInt8) : Prop :=
  m.read pc = .ok b ∧ ∀ op : Opcode, b ≠ op.byte

/-- Memory ends in front of a byte that is needed: the opcode, or an operand of the opcode. -/
def CutOff (m : Memory) (pc : Nat) : Prop :=
  size ≤ pc ∨ ∃ op : Opcode, m.read pc = .ok op.byte ∧ size < pc + Opcode.width op.byte

variable {m : Memory} {pc : Nat}

theorem decode_of_le (h : size ≤ pc) : m.decode pc = .error (.addressOutOfRange pc) := by
  rw [decode, read_of_le h]
  rfl

/-- A byte that is no opcode is refused before any operand is fetched. -/
theorem decode_of_unknown {b : UInt8} (h : m.Unknown pc b) :
    m.decode pc = .error (.unknownOpcode b pc) := by
  obtain ⟨hb, hop⟩ := h
  simp only [decode, hb, bind, Except.bind, Opcode.ofByte?_eq_none_iff.2 hop]
  rfl

/-- Operands are fetched in order, so the byte that is missing is the first one behind memory. -/
theorem decode_of_cut {op : Opcode} (hb : m.read pc = .ok op.byte)
    (h : size < pc + Opcode.width op.byte) :
    m.decode pc = .error (.addressOutOfRange size) := by
  have hpc : pc < size := (read_eq_ok_iff.1 hb).1
  have hbehind : m.read size = .error (.addressOutOfRange size) := read_of_le (Nat.le_refl _)
  rw [Opcode.width_byte] at h
  simp only [decode, hb, bind, Except.bind, Opcode.ofByte?_byte]
  cases op with
  | hlt =>
    -- an opcode without operands is not cut off
    simp only at h
    omega
  | prn | push | pop =>
    simp only at h
    have hnext : pc + 1 = size := by omega
    simp only [hnext, hbehind]
  | ldi | mul =>
    simp only at h
    by_cases hfirst : pc + 1 < size
    · have hnext : pc + 2 = size := by omega
      simp only [read_of_lt hfirst, hnext, hbehind]
    · have hnext : pc + 1 = size := by omega
      simp only [hnext, hbehind]

/-- An opcode decodes if its operands end inside memory. -/
theorem exists_decode {op : Opcode} (hb : m.read pc = .ok op.byte)
    (h : pc + Opcode.width op.byte ≤ size) : ∃ i, m.decode pc = .ok i := by
  rw [Opcode.width_byte] at h
  simp only [decode, hb, bind, Except.bind, Opcode.ofByte?_byte]
  cases op with
  | hlt => exact ⟨_, rfl⟩
  | prn | push | pop =>
    simp only at h
    have hfirst : pc + 1 < size := by omega
    simp only [read_of_lt hfirst]
    exact ⟨_, rfl⟩
  | ldi | mul =>
    simp only at h
    have hfirst : pc + 1 < size := by omega
    have hsecond : pc + 2 < size := by omega
    simp only [read_of_lt hfirst, read_of_lt hsecond]
    exact ⟨_, rfl⟩

/-- Where memory is cut off, decoding asks for `pc` itself or for the first byte behind memory. -/
theorem decode_of_cutOff (h : m.CutOff pc) :
    m.decode pc = .error (.addressOutOfRange (max pc size)) := by
  rcases h with hpc | ⟨op, hb, hend⟩
  · rw [decode_of_le hpc, Nat.max_eq_left hpc]
  · have hpc : pc < size := (read_eq_ok_iff.1 hb).1
    rw [decode_of_cut hb hend, Nat.max_eq_right (Nat.le_of_lt hpc)]

/-- What is at `pc` decodes, or is no opcode, or is cut off by the end of memory. -/
theorem decode_cases (m : Memory) (pc : Nat) :
    (∃ i, m.decode pc = .ok i) ∨ (∃ b, m.Unknown pc b) ∨ m.CutOff pc := by
  by_cases hpc : pc < size
  · have hb : m.read pc = .ok m.cells[pc] := read_of_lt hpc
    cases hop : Opcode.ofByte? m.cells[pc] with
    | none => exact .inr (.inl ⟨_, hb, Opcode.ofByte?_eq_none_iff.1 hop⟩)
    | some op =>
      rw [Opcode.ofByte?_eq_some_iff.1 hop] at hb
      by_cases hend : pc + Opcode.width op.byte ≤ size
      · exact .inl (exists_decode hb hend)
      · exact .inr (.inr (.inr ⟨op, hb, Nat.lt_of_not_le hend⟩))
  · exact .inr (.inr (.inl (Nat.le_of_not_lt hpc)))

/-- A byte that is no opcode is reported as such wherever it stands, and all else that does not decode
is cut off. -/
theorem decode_eq_error_iff {f : Fault} :
    m.decode pc = .error f ↔
      (∃ b, m.Unknown pc b ∧ f = .unknownOpcode b pc) ∨
        m.CutOff pc ∧ f = .addressOutOfRange (max pc size) := by
  constructor
  · intro h
    rcases m.decode_cases pc with ⟨i, hi⟩ | ⟨b, hb⟩ | hcut
    · rw [hi] at h
      cases h
    · rw [decode_of_unknown hb] at h
      exact .inl ⟨b, hb, (Except.error.inj h).symm⟩
    · rw [decode_of_cutOff hcut] at h
      exact .inr ⟨hcut, (Except.error.inj h).symm⟩
  · rintro (⟨b, hb, rfl⟩ | ⟨hcut, rfl⟩)
    · exact decode_of_unknown hb
    · exact decode_of_cutOff hcut

theorem decode_eq_unknownOpcode_iff {b : UInt8} {addr : Nat} :
    m.decode pc = .error (.unknownOpcode b addr) ↔ addr = pc ∧ m.Unknown pc b := by
  rw [decode_eq_error_iff]
  constructor
  · rintro (⟨_, hb, heq⟩ | ⟨-, heq⟩)
    · cases heq
      exact ⟨rfl, hb⟩
    · cases heq
  · rintro ⟨rfl, hb⟩
    exact .inl ⟨b, hb, rfl⟩

theorem decode_eq_addressOutOfRange_iff {addr : Nat} :
    m.decode pc = .error (.addressOutOfRange addr) ↔ addr = max pc size ∧ m.CutOff pc := by
  rw [decode_eq_error_iff]
  constructor
  · rintro (⟨_, -, heq⟩ | ⟨hcut, heq⟩)
    · cases heq
    · cases heq
      exact ⟨rfl, hcut⟩
  · rintro ⟨rfl, hcut⟩
    exact .inr ⟨hcut, rfl⟩

end Memory

end Ls8
