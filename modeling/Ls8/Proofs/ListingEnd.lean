import Ls8.Proofs.ListingLayout

/-!
# A listing that runs out of memory

More bytes can be asked for than there are. The listing is still cut short by a `HLT` or by a byte that
does not decode, and then the rest of what was asked for makes no difference.

If there is neither, then the last instruction ends where memory does, as one that reached further would
not decode. The listing goes on from there to one more line, for a byte that there is not. Which of the
two happens is said by the listing of memory alone.

Main results:

* `listingFrom_eq_append` — the lines behind the last one within memory.
* `listing_beyond_memory` — when a line shows more than memory holds, and which.
-/

namespace Ls8

namespace Listing

/-- Behind a line the listing goes on if it shows an instruction other than `HLT`. -/
def Line.goesOn : Line → Bool
  | instruction _ inst => inst ≠ .halt
  | data _ _ => false

end Listing

namespace Memory

open Listing

variable {m : Memory} {len pc : Nat} {lines : List Line}

/-- Memory is instructions up to its end when read from address 0, and no `HLT` among them. -/
def ReadThrough (m : Memory) : Prop := ∀ line ∈ m.listing size, line.goesOn

instance (m : Memory) : Decidable m.ReadThrough :=
  inferInstanceAs (Decidable (∀ line ∈ m.listing size, line.goesOn))

/-- Behind memory there is one line, and it shows a zero. -/
theorem listingFrom_size (h : size < len) : m.listingFrom len size = [.data size 0] := by
  rw [listingFrom_error h (decode_of_le (Nat.le_refl _)), byteOrZero, read_of_le (Nat.le_refl _)]
  rfl

/-- If more is asked for than memory has, there are the lines of memory, and where all of them go on the
one behind memory. -/
theorem listingFrom_eq_append (h : Sweep m size pc lines) (hpc : pc ≤ size) (hlen : size ≤ len) :
    m.listingFrom len pc =
      lines ++ if size < len ∧ ∀ line ∈ lines, line.goesOn then [.data size 0] else [] := by
  induction h with
  | @covered pc hle =>
    -- memory is read through, so what is asked for decides
    obtain rfl : pc = size := Nat.le_antisymm hpc hle
    by_cases hlt : size < len
    · rw [if_pos ⟨hlt, nofun⟩]
      exact listingFrom_size hlt
    · rw [if_neg fun h => hlt h.1]
      exact listingFrom_of_le (Nat.le_of_not_lt hlt)
  | undecoded h hd =>
    rw [if_neg fun h => nomatch h.2 _ (List.mem_singleton.2 rfl)]
    exact listingFrom_error (Nat.lt_of_lt_of_le h hlen) hd
  | halted h hd =>
    rw [if_neg fun h => nomatch h.2 _ (List.mem_singleton.2 rfl)]
    exact listingFrom_halt (Nat.lt_of_lt_of_le h hlen) hd
  | @goesOn pc inst lines h hd hi _ ih =>
    have hthis : (Line.instruction pc inst).goesOn := decide_eq_true hi
    -- this line goes on, so the others decide
    simp only [List.forall_mem_cons, hthis, true_and]
    rw [listingFrom_ok (Nat.lt_of_lt_of_le h hlen) hd hi, ih (add_width_le_of_decode hd)]
    rfl

theorem listing_eq_append (m : Memory) (hlen : size ≤ len) :
    m.listing len = m.listing size ++ if size < len ∧ m.ReadThrough then [.data size 0] else [] :=
  listingFrom_eq_append (sweep_listing m size) (Nat.zero_le _) hlen

/-- A line within memory is for an address there and shows what it holds. -/
theorem holds_of_mem_listing {line : Line} (hlen : len ≤ size) (h : line ∈ m.listing len) :
    line.addr < size ∧ m.Holds line.addr line.bytes :=
  have ⟨hshows, haddr⟩ := shows_of_mem_listing hlen h
  ⟨haddr, hshows.holds⟩

/--
**What a listing shows beyond memory.** However many bytes are asked for, every line is for an address
inside memory and shows bytes that stand there, unless more is asked for than the 256 bytes of memory
and memory read from address 0 is instructions up to its end, with no `HLT` among them.

Then there is one line more than memory has, for address 256, with a zero byte. Otherwise a listing of
256 bytes or more is the listing of memory.
-/
theorem listing_beyond_memory (m : Memory) (len : Nat) :
    ((∀ line ∈ m.listing len, line.addr < size ∧ m.Holds line.addr line.bytes) ↔
      ¬(size < len ∧ m.ReadThrough)) ∧
    (size ≤ len → m.listing len =
      m.listing size ++ if size < len ∧ m.ReadThrough then [.data size 0] else []) := by
  refine ⟨⟨?_, ?_⟩, m.listing_eq_append⟩
  · -- the line behind memory is one of all
    rintro hall ⟨hlt, hthrough⟩
    have hmem : Line.data size 0 ∈ m.listing len := by
      rw [m.listing_eq_append (Nat.le_of_lt hlt), if_pos ⟨hlt, hthrough⟩]
      exact List.mem_append_right _ (List.mem_singleton.2 rfl)
    exact absurd (hall _ hmem).1 (Nat.lt_irrefl size)
  · intro hnot line hmem
    rcases Nat.le_total len size with hle | hle
    · exact holds_of_mem_listing hle hmem
    · rw [m.listing_eq_append hle, if_neg hnot, List.append_nil] at hmem
      exact holds_of_mem_listing (Nat.le_refl _) hmem

/-- Memory full of `PRN R0`. -/
def allPrints : Memory :=
  ⟨⟨(List.replicate 128 [(71 : UInt8), 0]).flatten.toArray, by decide +kernel⟩⟩

/-- One byte more than there are makes a line of memory that there is not. -/
theorem listing_beyond_memory_allPrints :
    (allPrints.listing 257).getLast? = some (.data 256 0) ∧
    (Line.data 256 0).text = "100: 00        .byte 0b00000000" ∧
    ¬(∀ line ∈ allPrints.listing 257,
      line.addr < size ∧ allPrints.Holds line.addr line.bytes) ∧
    allPrints.listing 257 ≠ allPrints.listing 256 := by
  have hlast : (allPrints.listing 257).getLast? = some (.data 256 0) := by decide +kernel
  have hmem : Line.data 256 0 ∈ allPrints.listing 257 := List.mem_of_getLast? hlast
  refine ⟨hlast, by decide +kernel, ?_, ?_⟩
  · intro hall
    exact absurd (hall _ hmem).1 (Nat.lt_irrefl size)
  · intro heq
    rw [heq] at hmem
    exact absurd (holds_of_mem_listing (Nat.le_refl _) hmem).1 (Nat.lt_irrefl size)

end Memory

end Ls8
