import Ls8.Instruction.Decode

/-!
# Decoding is the inverse of encoding

The bytes of an instruction are said in several places: the opcode byte, the list of opcodes that a
byte is looked up in, the operand count in the upper bits of that byte, and the order of the operands.
Decoding follows all of them, and so it undoes encoding: an instruction is decoded where exactly its
bytes stand, whatever the address, up to the last byte of memory.

Where nothing decodes there are two reasons, and of the two only one at a time. A byte that is no
opcode is reported even if nothing could follow it.

Main results:

* `holds_iff_bytesFrom` — bytes stand at an address if memory, read from there, begins with them.
* `decode_inverts_encode` — what is decoded at an address, and why nothing is.
-/

namespace Ls8

namespace Memory

/-- The bytes from an address on, as many as are asked for, or fewer where memory ends. -/
def bytesFrom (m : Memory) (addr count : Nat) : List UInt8 := (m.toList.drop addr).take count

/-- The bytes of memory, each at its address. -/
theorem getElem?_toList {m : Memory} {addr : Nat} {b : UInt8} :
    m.toList[addr]? = some b ↔ m.read addr = .ok b := by
  rw [toList, Vector.getElem?_toList, Vector.getElem?_eq_some_iff, read_eq_ok_iff]

/-- Bytes stand at an address if they end inside memory and memory, read from there, begins with
them. -/
theorem holds_iff_bytesFrom {m : Memory} {addr : Nat} {bs : List UInt8} (hne : bs ≠ []) :
    m.Holds addr bs ↔ addr + bs.length ≤ size ∧ m.bytesFrom addr bs.length = bs := by
  have hget : ∀ k, k < bs.length →
      (m.bytesFrom addr bs.length)[k]? = m.toList[addr + k]? := by
    intro k hk
    rw [bytesFrom, List.getElem?_take_of_lt hk, List.getElem?_drop]
  constructor
  · intro h
    have hend : addr + bs.length ≤ size := h.add_length_le hne
    refine ⟨hend, List.ext_getElem? fun k => ?_⟩
    by_cases hk : k < bs.length
    · rw [hget k hk, getElem?_toList.2 (holds_iff.1 h k hk), List.getElem?_eq_getElem hk]
    · -- both lists have come to their end
      have hlength : (m.bytesFrom addr bs.length).length ≤ bs.length := List.length_take_le _ _
      rw [List.getElem?_eq_none (by omega), List.getElem?_eq_none (by omega)]
  · rintro ⟨-, h⟩
    rw [holds_iff]
    intro k hk
    rw [← getElem?_toList, ← hget k hk, h, List.getElem?_eq_getElem hk]

/-- An instruction decodes where memory begins with its bytes. -/
theorem decode_iff_bytesFrom {m : Memory} {pc : Nat} {i : Instruction} :
    m.decode pc = .ok i ↔ pc + i.width ≤ size ∧ m.bytesFrom pc i.width = i.encode := by
  rw [decode_eq_ok_iff, holds_iff_bytesFrom i.encode_ne_nil, i.length_encode]

/--
**Decoding is the inverse of encoding.** At every address of every memory an instruction is decoded
exactly if its bytes end inside memory and are the ones that stand there.

If a byte stands there that is none of the six opcodes, that byte and its address are reported, and
only then. If the address is outside memory, or if the operands of the opcode there run past the end,
the first address outside memory that was asked for is reported, and only then. There is no other
outcome.
-/
theorem decode_inverts_encode (m : Memory) (pc : Nat) :
    (∀ i : Instruction, m.decode pc = .ok i ↔
      pc + i.width ≤ size ∧ m.bytesFrom pc i.width = i.encode) ∧
    (∀ b addr, m.decode pc = .error (.unknownOpcode b addr) ↔
      addr = pc ∧ m.read pc = .ok b ∧ ∀ op : Opcode, b ≠ op.byte) ∧
    (∀ addr, m.decode pc = .error (.addressOutOfRange addr) ↔
      addr = max pc size ∧
        (size ≤ pc ∨ ∃ op : Opcode, m.read pc = .ok op.byte ∧ size < pc + Opcode.width op.byte)) ∧
    ((∃ i, m.decode pc = .ok i) ∨ (∃ b, m.decode pc = .error (.unknownOpcode b pc)) ∨
      m.decode pc = .error (.addressOutOfRange (max pc size))) := by
  refine ⟨fun i => decode_iff_bytesFrom, fun b addr => decode_eq_unknownOpcode_iff,
    fun addr => decode_eq_addressOutOfRange_iff, ?_⟩
  -- there are three cases, and each decides what is reported
  rcases m.decode_cases pc with hi | ⟨b, hb⟩ | hcut
  · exact .inl hi
  · exact .inr (.inl ⟨b, decode_of_unknown hb⟩)
  · exact .inr (.inr (decode_of_cutOff hcut))

end Memory

end Ls8
