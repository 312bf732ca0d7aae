import Mathlib.Data.List.Chain
import Ls8.Proofs.Decoding
import Ls8.Proofs.ListingText

/-!
# How a listing lies over memory

The lines of a listing stand one behind the other from address 0, each where the bytes of the one before
it end. All but the last show an instruction other than `HLT`, so they take two bytes at least, and the
last begins below the length that was asked for. It may reach two bytes past that, as an instruction is
shown whole.

`Sweep` says how a listing comes about, line by line, and the properties of listings are proved by
induction on it. Only what a line shows in place of an instruction depends on whether its address is
inside memory, and with a length of 256 or less it always is.

Main results:

* `Sweep.length_le`, `Sweep.isChain` — how many lines there are, and how each leads to the next.
* `Sweep.shows`, `Sweep.holds` — the lines show what memory holds.
* `Sweep.exists_last` — how the last line ends the listing.
* `listing_tiles_memory` — all of this for a listing within memory.
-/

namespace Ls8

namespace Listing

/-! ## Lines -/

namespace Line

/-- The address right behind the bytes of a line. -/
def stop (line : Line) : Nat := line.addr + line.bytes.length

/-- A line shows what is found at its address: the instruction that decodes there, or the byte if none
does. -/
def Shows (m : Memory) : Line → Prop
  | instruction addr inst => m.decode addr = .ok inst
  | data addr byte => (∃ f, m.decode addr = .error f) ∧ m.read addr = .ok byte

/-- A line leads to the next one if it shows an instruction other than `HLT` and the next begins where
that ends. -/
def LeadsTo (line next : Line) : Prop :=
  ∃ inst, line = instruction line.addr inst ∧ inst ≠ .halt ∧ next.addr = line.addr + inst.width

/-- What the last line of a listing of `len` bytes is. -/
inductive Final (len : Nat) : Line → Prop
  | halt (addr : Nat) : Final len (instruction addr .halt)
  | data (addr : Nat) (byte : UInt8) : Final len (data addr byte)
  | covered {addr : Nat} {inst : Instruction} (reaches : len ≤ addr + inst.width)
      (atMost : addr + inst.width ≤ len + 2) : Final len (instruction addr inst)

variable {m : Memory} {line : Line}

theorem stop_instruction (addr : Nat) (inst : Instruction) :
    (instruction addr inst).stop = addr + inst.width :=
  congrArg (addr + ·) inst.length_encode

/-- The bytes that a line shows stand in memory at its address. -/
theorem Shows.holds (h : line.Shows m) : m.Holds line.addr line.bytes := by
  cases line with
  | instruction addr inst => exact Memory.decode_eq_ok_iff.1 h
  | data addr byte => exact ⟨h.2, trivial⟩

end Line

/-! ## Line by line -/

/-- The lines of a listing of `len` bytes from an address on, in the order in which they are found. -/
inductive Sweep (m : Memory) (len : Nat) : Nat → List Line → Prop
  | covered {pc : Nat} (h : len ≤ pc) : Sweep m len pc []
  | undecoded {pc : Nat} {f : Fault} (h : pc < len) (fetch : m.decode pc = .error f) :
      Sweep m len pc [.data pc (m.byteOrZero pc)]
  | halted {pc : Nat} (h : pc < len) (fetch : m.decode pc = .ok .halt) :
      Sweep m len pc [.instruction pc .halt]
  | goesOn {pc : Nat} {inst : Instruction} {lines : List Line} (h : pc < len)
      (fetch : m.decode pc = .ok inst) (passes : inst ≠ .halt)
      (rest : Sweep m len (pc + inst.width) lines) :
      Sweep m len pc (.instruction pc inst :: lines)

theorem sweep_listingFrom (m : Memory) (len pc : Nat) : Sweep m len pc (m.listingFrom len pc) := by
  fun_induction m.listingFrom len pc with
  | case1 pc h f hd => exact .undecoded h hd
  | case2 pc h hd => exact .halted h hd
  | case3 pc h inst hi hd ih => exact .goesOn h hd hi ih
  | case4 pc h => exact .covered (Nat.le_of_not_lt h)

theorem sweep_listing (m : Memory) (len : Nat) : Sweep m len 0 (m.listing len) :=
  sweep_listingFrom m len 0

namespace Sweep

variable {m : Memory} {len pc : Nat} {lines : List Line}

/-- Two bytes for every line are covered, or one if the last is a `HLT` or a byte. -/
theorem length_le (h : Sweep m len pc lines) : lines.length ≤ (len - pc + 1) / 2 := by
  induction h with
  | covered => exact Nat.zero_le _
  | undecoded h _ | halted h _ =>
    rw [List.length_singleton]
    omega
  | goesOn h _ hi _ ih =>
    -- this line is paid for by the two bytes that it leaves less for the others
    have hwidth := Instruction.two_le_width hi
    rw [List.length_cons]
    omega

/-- The first line begins where the sweep begins. -/
theorem addr_of_mem_head? {first : Line} (h : Sweep m len pc lines) (hfirst : first ∈ lines.head?) :
    first.addr = pc := by
  cases h with
  | covered => cases hfirst
  | undecoded | halted | goesOn =>
    cases hfirst
    rfl

theorem isChain (h : Sweep m len pc lines) : lines.IsChain Line.LeadsTo := by
  induction h with
  | covered => exact .nil
  | undecoded | halted => exact .singleton _
  | @goesOn pc inst lines _ _ hi hrest ih =>
    exact List.isChain_cons.2 ⟨fun next hnext => ⟨inst, rfl, hi, hrest.addr_of_mem_head? hnext⟩, ih⟩

/-- A line shows what memory holds, but for one right behind memory. -/
theorem shows (h : Sweep m len pc lines) (hpc : pc ≤ Memory.size) :
    ∀ line ∈ lines, line.addr < len ∧ (line.Shows m ∨ line = .data Memory.size 0) := by
  induction h with
  | covered => exact fun _ hmem => nomatch hmem
  | @undecoded pc f h hd =>
    intro line hmem
    obtain rfl := List.mem_singleton.1 hmem
    refine ⟨h, ?_⟩
    rcases Nat.lt_or_eq_of_le hpc with hlt | rfl
    · have hread := Memory.read_of_lt (m := m) hlt
      refine .inl ⟨⟨f, hd⟩, ?_⟩
      rw [Memory.byteOrZero, hread]
      rfl
    · -- there is no byte any more, and a zero takes its place
      exact .inr (by rw [Memory.byteOrZero, Memory.read_of_le (Nat.le_refl _)]; rfl)
  | halted h hd =>
    intro line hmem
    obtain rfl := List.mem_singleton.1 hmem
    exact ⟨h, .inl hd⟩
  | goesOn h hd _ _ ih =>
    intro line hmem
    rcases List.mem_cons.1 hmem with rfl | hlater
    · exact ⟨h, .inl hd⟩
    · exact ih (Memory.add_width_le_of_decode hd) line hlater

/-- The bytes of all lines stand in memory one behind the other. -/
theorem holds (h : Sweep m len pc lines) (hshows : ∀ line ∈ lines, line.Shows m) :
    m.Holds pc (lines.flatMap Line.bytes) := by
  induction h with
  | covered => trivial
  | undecoded | halted =>
    rw [List.flatMap_singleton]
    exact (hshows _ (List.mem_singleton.2 rfl)).holds
  | @goesOn pc inst lines _ hd _ _ ih =>
    have hrest := ih fun line hmem => hshows line (List.mem_cons_of_mem _ hmem)
    rw [List.flatMap_cons, Memory.holds_append]
    refine ⟨Memory.decode_eq_ok_iff.1 hd, ?_⟩
    -- the next line begins where the bytes of this one end
    show m.Holds (pc + inst.encode.length) _
    rw [inst.length_encode]
    exact hrest

/-- Below `len` there is a last line, and it ends where the bytes of all lines end. -/
theorem exists_last (h : Sweep m len pc lines) (hpc : pc < len) :
    ∃ last, lines.getLast? = some last ∧ last.Final len ∧
      last.stop = pc + (lines.flatMap Line.bytes).length := by
  induction h with
  | covered hle => omega
  | undecoded => exact ⟨_, rfl, .data _ _, rfl⟩
  | halted => exact ⟨_, rfl, .halt _, rfl⟩
  | @goesOn pc inst lines h hd hi hrest ih =>
    -- the last line is one of the others if there are any, else this one
    have hwidth : (Line.instruction pc inst).bytes.length = inst.width := inst.length_encode
    rw [List.flatMap_cons, List.length_append, hwidth]
    by_cases hlt : pc + inst.width < len
    · obtain ⟨last, hlast, hfinal, hstop⟩ := ih hlt
      have hne : lines ≠ [] := by
        rintro rfl
        cases hlast
      refine ⟨last, (List.getLast?_cons_of_ne_nil hne).trans hlast, hfinal, ?_⟩
      rw [hstop, Nat.add_assoc]
    · -- this instruction is the one that reaches `len`
      have hle : len ≤ pc + inst.width := Nat.le_of_not_lt hlt
      have hthree := inst.width_le_three
      obtain rfl : lines = [] := by
        cases hrest with
        | covered => rfl
        | undecoded hlt' | halted hlt' | goesOn hlt' => exact absurd hlt' hlt
      exact ⟨_, rfl, .covered hle (by omega), Line.stop_instruction pc inst⟩

end Sweep

end Listing

namespace Memory

open Listing

variable {m : Memory} {len : Nat}

/-- A listing within memory shows what memory holds. -/
theorem shows_of_mem_listing {line : Line} (hlen : len ≤ size) (h : line ∈ m.listing len) :
    line.Shows m ∧ line.addr < size := by
  obtain ⟨hlt, hshows⟩ := (sweep_listing m len).shows (Nat.zero_le _) line h
  refine ⟨hshows.resolve_right ?_, Nat.lt_of_lt_of_le hlt hlen⟩
  rintro rfl
  exact absurd hlen (Nat.not_le.2 hlt)

theorem bytesFrom_of_holds {addr : Nat} {bs : List UInt8} (h : m.Holds addr bs) (hne : bs ≠ []) :
    addr + bs.length ≤ size ∧ m.bytesFrom addr bs.length = bs := (holds_iff_bytesFrom hne).1 h

/-- The digits in the byte columns of lines inside memory, one line after the other, are those of the
bytes of these lines. -/
theorem flatMap_hexColumn {lines : List Line} (h : ∀ line ∈ lines, line.addr < size) :
    (lines.map Line.text).flatMap hexColumn = hexDigits (lines.flatMap Line.bytes) := by
  rw [List.flatMap_map, hexDigits, List.flatMap_assoc]
  exact List.flatMap_congr fun line hmem => Line.hexColumn_text (h line hmem)

/--
**A listing lies over memory without a gap.** Take the listing of the first `len` bytes of memory, which
has 256 bytes at most. It has at most half as many lines as there are bytes, rounded up. If there are
bytes at all, its first line is for address 0. Each line but the last shows an instruction other than
`HLT`, and the next line begins where that instruction ends.

Every line shows what is found at its address: an instruction that decodes there, or, where none does,
the byte. As text it is the address, the bytes of memory there in hexadecimal, and the assembler text
or the byte in binary.

The last line shows a `HLT`, or a byte, or an instruction that ends at `len` or up to two bytes behind
it. The bytes of all lines, and the digits in their byte columns when the text is read line by line, are
those of memory from 0 up to where the last line ends.
-/
theorem listing_tiles_memory (m : Memory) {len : Nat} (hlen : len ≤ size) :
    let lines := m.listing len
    lines.length ≤ (len + 1) / 2 ∧
    (0 < len → ∃ first, lines.head? = some first ∧ first.addr = 0) ∧
    lines.IsChain Line.LeadsTo ∧
    (∀ line ∈ lines, line.Shows m ∧
      line.text = Numeral.upperHex 2 line.addr ++ ": " ++
        String.ofList (column (m.bytesFrom line.addr line.bytes.length)) ++ "  " ++ line.meaning) ∧
    ∀ last, lines.getLast? = some last → last.Final len ∧ last.stop ≤ size ∧
      lines.flatMap Line.bytes = m.bytesFrom 0 last.stop ∧
      (lines.map Line.text).flatMap hexColumn = hexDigits (m.bytesFrom 0 last.stop) := by
  intro lines
  have hsweep := sweep_listing m len
  have hlines : ∀ line ∈ lines, line.Shows m ∧ line.addr < size :=
    fun line hmem => shows_of_mem_listing hlen hmem
  refine ⟨hsweep.length_le, ?_, hsweep.isChain, ?_, ?_⟩
  · intro hpos
    obtain ⟨last, hlast, -⟩ := hsweep.exists_last hpos
    have hne : lines ≠ [] := List.ne_nil_of_mem (List.mem_of_getLast? hlast)
    have hfirst := List.head?_eq_some_head hne
    exact ⟨_, hfirst, hsweep.addr_of_mem_head? hfirst⟩
  · intro line hmem
    have hshows := (hlines line hmem).1
    obtain ⟨-, hbytes⟩ := bytesFrom_of_holds hshows.holds line.bytes_ne_nil
    exact ⟨hshows, by rw [hbytes, line.text_eq]⟩
  · intro last hlast
    have hmem : last ∈ lines := List.mem_of_getLast? hlast
    have hpos : 0 < len := Nat.zero_lt_of_lt ((hsweep.shows (Nat.zero_le _) last hmem).1)
    obtain ⟨last', hlast', hfinal, hstop⟩ := hsweep.exists_last hpos
    obtain rfl : last = last' := Option.some.inj (hlast.symm.trans hlast')
    -- the bytes of all lines stand at address 0, and the last line ends where they do
    have hholds := hsweep.holds fun line hmem => (hlines line hmem).1
    have hne : lines.flatMap Line.bytes ≠ [] :=
      fun hnil => last.bytes_ne_nil (List.flatMap_eq_nil_iff.1 hnil last hmem)
    obtain ⟨hend, hbytes⟩ := bytesFrom_of_holds hholds hne
    rw [← hstop] at hend
    rw [Nat.zero_add] at hstop
    rw [hstop, hbytes, ← hstop]
    exact ⟨hfinal, hend, rfl, flatMap_hexColumn fun line hmem => (hlines line hmem).2⟩

/-- Memory where every byte is the opcode of `PRN`, but for the last but one, which is that of `LDI`. -/
def cutOff : Memory := ⟨(Vector.replicate size 71).set 254 130⟩

/-- There are as many lines as there can be, as the opcode is shown as a byte: for the instruction two
operands are needed and there is one. -/
theorem listing_tiles_memory_cutOff :
    256 ≤ size ∧ (cutOff.listing 256).length = (256 + 1) / 2 ∧
      (cutOff.listing 256).getLast? = some (.data 254 130) ∧
      (cutOff.listing 256).flatMap Line.bytes = cutOff.bytesFrom 0 255 ∧
      ((cutOff.listing 256).map Line.text).flatMap hexColumn = hexDigits (cutOff.bytesFrom 0 255) := by
  obtain ⟨hlength, hlast⟩ : (cutOff.listing 256).length = (256 + 1) / 2 ∧
      (cutOff.listing 256).getLast? = some (.data 254 130) := by
    decide +kernel
  obtain ⟨-, -, -, -, hends⟩ := listing_tiles_memory cutOff (Nat.le_refl 256)
  obtain ⟨-, -, hbytes, htext⟩ := hends _ hlast
  exact ⟨Nat.le_refl 256, hlength, hlast, hbytes, htext⟩

end Memory

end Ls8
