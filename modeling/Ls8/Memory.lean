import Ls8.Fault

/-!
# Memory

Memory is 256 byte cells. Every access is checked against that range and nothing wraps; a program
image is copied in from address 0 and leaves the cells behind it as they were.

* `read_write` — reading after a write sees the written cell and no other.
* `read_load` — reading after a load sees the image, and behind it the old cells.
* `holds_iff` — a run of bytes stands at an address if each byte can be read at its place.
-/

namespace Ls8

/-- The 256 byte cells that programs and data share. -/
structure Memory where
  cells : Vector UInt8 256
  deriving DecidableEq

namespace Memory

/-- How many cells there are. -/
abbrev size : Nat := 256

/-- Memory with a zero in every cell. -/
def zero : Memory := ⟨Vector.replicate size 0⟩

/-- The byte at an address. -/
def read (m : Memory) (addr : Nat) : Except Fault UInt8 :=
  if h : addr < size then .ok m.cells[addr] else .error (.addressOutOfRange addr)

/-- Puts a byte at an address. -/
def write (m : Memory) (addr : Nat) (value : UInt8) : Except Fault Memory :=
  if h : addr < size then .ok ⟨m.cells.set addr value⟩ else .error (.addressOutOfRange addr)

/-- Copies an image to the addresses from 0. -/
def load (m : Memory) (image : List UInt8) : Except Fault Memory :=
  if image.length ≤ size then
    .ok ⟨Vector.ofFn fun i => image[i.val]?.getD m.cells[i]⟩
  else .error (.programTooLarge image.length size)

/-- Every byte, in order of address. -/
def toList (m : Memory) : List UInt8 := m.cells.toList

/-! ## Reading -/

theorem read_of_lt {m : Memory} {addr : Nat} (h : addr < size) :
    m.read addr = .ok m.cells[addr] := dif_pos h

theorem read_of_le {m : Memory} {addr : Nat} (h : size ≤ addr) :
    m.read addr = .error (.addressOutOfRange addr) := dif_neg (by omega)

theorem read_eq_ok_iff {m : Memory} {addr : Nat} {b : UInt8} :
    m.read addr = .ok b ↔ ∃ h : addr < size, m.cells[addr] = b := by
  unfold read
  split
  next h => simp [h]
  next h => simp [h]

theorem read_eq_error_iff {m : Memory} {addr : Nat} {f : Fault} :
    m.read addr = .error f ↔ size ≤ addr ∧ f = .addressOutOfRange addr := by
  unfold read
  split
  next h => simp [Nat.not_le.2 h]
  next h => simp [Nat.le_of_not_lt h, eq_comm]

/-- A byte is an address inside memory. -/
theorem toNat_lt_size (b : UInt8) : b.toNat < size := UInt8.toNat_lt b

/-! ## Writing and loading -/

theorem write_of_lt {m : Memory} {addr : Nat} {value : UInt8} (h : addr < size) :
    m.write addr value = .ok ⟨m.cells.set addr value⟩ := dif_pos h

theorem write_of_le {m : Memory} {addr : Nat} {value : UInt8} (h : size ≤ addr) :
    m.write addr value = .error (.addressOutOfRange addr) := dif_neg (by omega)

theorem write_eq_error_iff {m : Memory} {addr : Nat} {value : UInt8} {f : Fault} :
    m.write addr value = .error f ↔ size ≤ addr ∧ f = .addressOutOfRange addr := by
  unfold write
  split
  next h => simp [Nat.not_le.2 h]
  next h => simp [Nat.le_of_not_lt h, eq_comm]

/-- After a write the written address holds the new byte and every other address its old one. -/
theorem read_write {m m' : Memory} {addr : Nat} {value : UInt8} (h : m.write addr value = .ok m')
    (a : Nat) : m'.read a = if a = addr then .ok value else m.read a := by
  unfold write at h
  split at h
  next hlt =>
    obtain rfl := Except.ok.inj h
    by_cases ha : a < size
    · rw [read_of_lt ha, read_of_lt ha, Vector.getElem_set]
      by_cases hEq : addr = a
      · simp [hEq]
      · simp [hEq, Ne.symm hEq]
    · have hne : a ≠ addr := by omega
      rw [read_of_le (by omega), read_of_le (by omega), if_neg hne]
  next => cases h

theorem load_of_le {m : Memory} {image : List UInt8} (h : image.length ≤ size) :
    m.load image = .ok ⟨Vector.ofFn fun i => image[i.val]?.getD m.cells[i]⟩ := if_pos h

theorem load_of_lt {m : Memory} {image : List UInt8} (h : size < image.length) :
    m.load image = .error (.programTooLarge image.length size) := if_neg (by omega)

theorem load_eq_error_iff {m : Memory} {image : List UInt8} {f : Fault} :
    m.load image = .error f ↔ size < image.length ∧ f = .programTooLarge image.length size := by
  unfold load
  split
  next h => simp [Nat.not_lt.2 h]
  next h => simp [Nat.lt_of_not_le h, eq_comm]

/-- After a load the image stands at its addresses, and the cells behind it are the old ones. -/
theorem read_load {m m' : Memory} {image : List UInt8} (h : m.load image = .ok m') (a : Nat) :
    m'.read a = if h : a < image.length then .ok image[a] else m.read a := by
  unfold load at h
  split at h
  next hle =>
    obtain rfl := Except.ok.inj h
    by_cases ha : a < size
    · rw [read_of_lt ha, read_of_lt ha]
      by_cases hi : a < image.length <;> simp [hi]
    · have hi : ¬ a < image.length := by omega
      rw [read_of_le (by omega), read_of_le (by omega), dif_neg hi]
  next => cases h

/-! ## Runs of bytes -/

/-- The bytes stand in memory from `addr` on, all inside it. -/
def Holds (m : Memory) : Nat → List UInt8 → Prop
  | _, [] => True
  | addr, b :: bs => m.read addr = .ok b ∧ m.Holds (addr + 1) bs

theorem holds_iff {m : Memory} {addr : Nat} {bs : List UInt8} :
    m.Holds addr bs ↔ ∀ k (h : k < bs.length), m.read (addr + k) = .ok bs[k] := by
  induction bs generalizing addr with
  | nil => simp [Holds]
  | cons b bs ih =>
    simp only [Holds, ih, List.length_cons]
    constructor
    · rintro ⟨h0, hrest⟩ k hk
      cases k with
      | zero => exact h0
      | succ k => simpa [Nat.add_assoc, Nat.add_comm 1] using hrest k (by omega)
    · intro h
      refine ⟨h 0 (by omega), fun k hk => ?_⟩
      rw [Nat.add_assoc, Nat.add_comm 1, h (k + 1) (by omega), List.getElem_cons_succ]

theorem holds_append {m : Memory} {addr : Nat} {bs cs : List UInt8} :
    m.Holds addr (bs ++ cs) ↔ m.Holds addr bs ∧ m.Holds (addr + bs.length) cs := by
  induction bs generalizing addr with
  | nil => simp [Holds]
  | cons b bs ih => simp [Holds, ih, and_assoc, Nat.add_assoc, Nat.add_comm 1]

/-- A run of bytes that is not empty ends inside memory. -/
theorem Holds.add_length_le {m : Memory} {addr : Nat} {bs : List UInt8} (h : m.Holds addr bs)
    (hne : bs ≠ []) : addr + bs.length ≤ size := by
  have hpos : 0 < bs.length := List.length_pos_iff.2 hne
  obtain ⟨hlt, -⟩ := read_eq_ok_iff.1 (holds_iff.1 h (bs.length - 1) (by omega))
  omega

end Memory

end Ls8
