import Ls8.Instruction.Decode

/-!
# Listings

A listing is the linear reading of a program from address 0: one line an instruction, each found
where the one before it ends. It stops behind a `HLT`, at a byte where nothing decodes (shown as
data), or once the asked number of bytes is covered.

* `listingFrom_of_le`, `listingFrom_error`, `listingFrom_halt`, `listingFrom_ok` — how each line
  leads to the next.
-/

namespace Ls8

/-- One line of a listing. -/
inductive Listing.Line where
  /-- The instruction at an address. -/
  | instruction (addr : Nat) (inst : Instruction)
  /-- The byte at an address where no instruction is. -/
  | data (addr : Nat) (byte : UInt8)
  deriving DecidableEq

/-- Bytes as upper-case pairs of digits with a blank between two. -/
def Listing.bytesText (bytes : List UInt8) : String :=
  String.intercalate " " (bytes.map fun b => Numeral.upperHex 2 b.toNat)

/-- A line as text: the address, the bytes in a column of eight characters, the assembler text. -/
def Listing.Line.text : Listing.Line → String
  | .instruction addr inst =>
    let column := (Listing.bytesText inst.encode).toList.rightpad 8 ' '
    Numeral.upperHex 2 addr ++ ": " ++ String.ofList column ++ "  " ++ inst.text
  | .data addr byte =>
    Numeral.upperHex 2 addr ++ ": " ++ Numeral.upperHex 2 byte.toNat ++ "        .byte 0b"
      ++ Numeral.binary 8 byte.toNat

namespace Memory

/-- The byte shown where nothing decodes; an address outside memory shows a zero. -/
def byteOrZero (m : Memory) (addr : Nat) : UInt8 := (m.read addr).toOption.getD 0

/-- The lines from `pc` up to the first `len` bytes of memory. -/
def listingFrom (m : Memory) (len pc : Nat) : List Listing.Line :=
  if pc < len then
    match m.decode pc with
    | .error _ => [.data pc (m.byteOrZero pc)]
    | .ok .halt => [.instruction pc .halt]
    | .ok inst => .instruction pc inst :: m.listingFrom len (pc + inst.width)
  else []
termination_by len - pc
decreasing_by
  have := inst.one_le_width
  omega

/-- The listing of the first `len` bytes of memory. -/
def listing (m : Memory) (len : Nat) : List Listing.Line := m.listingFrom len 0

/-! ## One line at a time -/

theorem listingFrom_of_le {m : Memory} {len pc : Nat} (h : len ≤ pc) :
    m.listingFrom len pc = [] := by
  rw [listingFrom, if_neg (by omega)]

theorem listingFrom_error {m : Memory} {len pc : Nat} {f : Fault} (h : pc < len)
    (hd : m.decode pc = .error f) : m.listingFrom len pc = [.data pc (m.byteOrZero pc)] := by
  rw [listingFrom, if_pos h, hd]

theorem listingFrom_halt {m : Memory} {len pc : Nat} (h : pc < len)
    (hd : m.decode pc = .ok .halt) : m.listingFrom len pc = [.instruction pc .halt] := by
  rw [listingFrom, if_pos h, hd]

theorem listingFrom_ok {m : Memory} {len pc : Nat} {i : Instruction} (h : pc < len)
    (hd : m.decode pc = .ok i) (hi : i ≠ .halt) :
    m.listingFrom len pc = .instruction pc i :: m.listingFrom len (pc + i.width) := by
  rw [listingFrom, if_pos h, hd]
  cases i with
  | halt => exact absurd rfl hi
  | _ => rfl

end Memory

end Ls8
