import Ls8.Fault

/-!
# Registers

Eight byte registers, `R0` to `R7`. `R7` is the stack pointer; apart from that it is a register like
the others. An operand byte of 8 or more names no register.

* `read_write` — reading after a write sees the written register and no other.
-/

namespace Ls8

/-- The eight registers. -/
structure Registers where
  cells : Vector UInt8 8
  deriving DecidableEq

namespace Registers

/-- How many registers there are. -/
abbrev count : Nat := 8

/-- The operand byte that names the stack pointer. -/
def spIndex : UInt8 := 7

/-- Zero in every register. -/
def zero : Registers := ⟨Vector.replicate count 0⟩

/-- The byte in the register that an operand names. -/
def read (r : Registers) (index : UInt8) : Except Fault UInt8 :=
  if h : index.toNat < count then .ok r.cells[index.toNat] else .error (.invalidRegister index)

/-- Puts a byte into the register that an operand names. -/
def write (r : Registers) (index value : UInt8) : Except Fault Registers :=
  if h : index.toNat < count then .ok ⟨r.cells.set index.toNat value⟩
  else .error (.invalidRegister index)

/-- The stack pointer. -/
def sp (r : Registers) : UInt8 := r.cells[7]

/-- Moves the stack pointer. -/
def setSp (r : Registers) (value : UInt8) : Registers := ⟨r.cells.set 7 value⟩

/-- Every register, in order. -/
def toList (r : Registers) : List UInt8 := r.cells.toList

/-- One register as text, such as `R0=0x00`. -/
def cellText (r : Registers) (k : Fin count) : String :=
  "R" ++ toString k.val ++ "=0x" ++ Numeral.hex 2 r.cells[k].toNat

/-- The registers as text, two to a line. -/
def text (r : Registers) : String :=
  let pair (i j : Fin count) := r.cellText i ++ " " ++ r.cellText j
  String.intercalate "\n" [pair 0 1, pair 2 3, pair 4 5, pair 6 7]

/-! ## Reading and writing -/

theorem read_of_lt {r : Registers} {index : UInt8} (h : index.toNat < count) :
    r.read index = .ok r.cells[index.toNat] := dif_pos h

theorem read_of_le {r : Registers} {index : UInt8} (h : count ≤ index.toNat) :
    r.read index = .error (.invalidRegister index) := dif_neg (by omega)

theorem write_of_lt {r : Registers} {index value : UInt8} (h : index.toNat < count) :
    r.write index value = .ok ⟨r.cells.set index.toNat value⟩ := dif_pos h

theorem write_of_le {r : Registers} {index value : UInt8} (h : count ≤ index.toNat) :
    r.write index value = .error (.invalidRegister index) := dif_neg (by omega)

/-- After a write the named register holds the new byte and every other operand reads as before. -/
theorem read_write {r r' : Registers} {index value : UInt8} (h : r.write index value = .ok r')
    (j : UInt8) : r'.read j = if j = index then .ok value else r.read j := by
  unfold write at h
  split at h
  next hlt =>
    obtain rfl := Except.ok.inj h
    by_cases hj : j.toNat < count
    · rw [read_of_lt hj, read_of_lt hj, Vector.getElem_set]
      by_cases hEq : index.toNat = j.toNat
      · simp [UInt8.toNat_inj.1 hEq]
      · have hne : j ≠ index := fun he => hEq (by rw [he])
        simp [hEq, hne]
    · have hne : j ≠ index := fun he => hj (he ▸ hlt)
      rw [read_of_le (by omega), read_of_le (by omega), if_neg hne]
  next => cases h

/-- Moving the stack pointer is a write to its register. -/
theorem write_spIndex (r : Registers) (value : UInt8) :
    r.write spIndex value = .ok (r.setSp value) := rfl

theorem sp_setSp (r : Registers) (value : UInt8) : (r.setSp value).sp = value := by
  simp [sp, setSp]

end Registers

end Ls8
