import Ls8.Listing
import Ls8.Proofs.CodeText
import Ls8.Proofs.MachineCode

/-!
# From text to listing

A program goes from text to bytes, from bytes to memory, and from memory to instructions and to the
lines of a listing. Nothing is lost on the way: at the place of each instruction that instruction
decodes, also where operands look like opcodes, because every instruction is found where the one
before it ends.

A listing ends with the first `HLT`, and what stands behind that is only decoded.

Main results:

* `decode_of_code` — each instruction of code decodes at its place.
* `listing_of_code` — the listing of code.
* `text_to_listing` — the whole way.
-/

namespace Ls8

/-- What a listing shows of a program: the instructions up to the first `HLT`, if there is one. -/
def listed (program : List Instruction) : List Instruction :=
  if .halt ∈ program then untilHalt program else program

namespace Memory

variable {m : Memory} {pc len : Nat} {insts program : List Instruction}

/-! ## Code in memory -/

/-- The code of the instructions in front of the k-th says where the k-th stands. -/
theorem decode_of_code (hcode : m.Holds pc (codeOf insts)) (k : Nat) (hk : k < insts.length) :
    m.decode (pc + (codeOf (insts.take k)).length) = .ok insts[k] := by
  -- in front of the k-th, the k-th, and behind it
  have hsplit : insts = insts.take k ++ insts[k] :: insts.drop (k + 1) := by
    rw [← List.drop_eq_getElem_cons hk, List.take_append_drop]
  have hparts : codeOf insts =
      codeOf (insts.take k) ++ (insts[k].encode ++ codeOf (insts.drop (k + 1))) := by
    rw [← codeOf_cons, ← codeOf_append, ← hsplit]
  rw [hparts, holds_append, holds_append] at hcode
  exact decode_eq_ok_iff.2 hcode.2.1

theorem listingFrom_of_code (hgoes : .halt ∉ insts) (hcode : m.Holds pc (codeOf insts))
    (hlen : pc + (codeOf insts).length ≤ len) :
    m.listingFrom len pc =
      (located pc insts).map (fun d => .instruction d.1 d.2) ++
        m.listingFrom len (pc + (codeOf insts).length) := by
  -- on the instructions, for every place at which their code may begin
  induction insts generalizing pc with
  | nil => rfl
  | cons inst insts ih =>
    rw [List.mem_cons, not_or] at hgoes
    rw [codeOf_cons, List.length_append, inst.length_encode, ← Nat.add_assoc] at hlen ⊢
    rw [codeOf_cons, holds_append, inst.length_encode] at hcode
    have hpc : pc < len := by
      have := inst.one_le_width
      omega
    rw [listingFrom_ok hpc (decode_eq_ok_iff.2 hcode.1) (Ne.symm hgoes.1),
      ih hgoes.2 hcode.2 hlen]
    rfl

/-- The listing of code has a line for each instruction up to the first `HLT`. -/
theorem listing_of_code (hcode : m.Holds 0 (codeOf program)) :
    m.listing (codeOf program).length =
      (located 0 (listed program)).map fun d => .instruction d.1 d.2 := by
  unfold listing listed
  split
  next hhalt =>
    -- the listing goes on up to the `HLT` and does not look at the rest
    obtain ⟨rest, hrest⟩ := exists_untilHalt_append hhalt
    have hparts : codeOf program =
        codeOf (beforeHalt program) ++ (Instruction.halt.encode ++ codeOf rest) := by
      conv_lhs => rw [hrest]
      rw [untilHalt, codeOf_append, codeOf_append, List.append_assoc]
      rfl
    rw [hparts] at hcode ⊢
    rw [holds_append, holds_append, Nat.zero_add] at hcode
    obtain ⟨hbefore, hhere, -⟩ := hcode
    have hlength : (codeOf (beforeHalt program)).length <
        (codeOf (beforeHalt program) ++ (Instruction.halt.encode ++ codeOf rest)).length := by
      simp [Instruction.encode]
    rw [listingFrom_of_code (halt_notMem_beforeHalt program) hbefore (by omega), Nat.zero_add,
      listingFrom_halt hlength (decode_eq_ok_iff.2 hhere), untilHalt, located_append, List.map_append,
      Nat.zero_add]
    rfl
  next hgoes =>
    rw [listingFrom_of_code hgoes hcode (by omega), listingFrom_of_le (by omega), List.append_nil]

end Memory

namespace Program

/--
**From text to listing.** Take any program whose code fits into memory, and any text that carries this
code: one byte in a line, in eight binary digits, with blanks and comments as they please, and with
lines that carry nothing. Reading the text gives exactly the code and skips no line. The code can be
loaded into any memory, and then each instruction decodes at the place where the code of those in
front of it ends. The listing of the code has a line for each instruction up to the first `HLT`, and
no other line; a line shows the place, the bytes and the assembler text of its instruction.
-/
theorem text_to_listing {program : List Instruction} {source : CodeText}
    (hcarries : source.bytes = codeOf program) (hfits : (codeOf program).length ≤ Memory.size) :
    (parse source.text).image = codeOf program ∧
    (parse source.text).skipEvents = [] ∧
    ∀ m : Memory, ∃ loaded, m.load (parse source.text).image = .ok loaded ∧
      (∀ k (h : k < program.length),
        loaded.decode (codeOf (program.take k)).length = .ok program[k]) ∧
      loaded.listing (codeOf program).length =
        (located 0 (listed program)).map (fun d => .instruction d.1 d.2) ∧
      (loaded.listing (codeOf program).length).map Listing.Line.text =
        (located 0 (listed program)).map fun d =>
          Numeral.upperHex 2 d.1 ++ ": " ++
            String.ofList ((Listing.bytesText d.2.encode).toList.rightpad 8 ' ') ++ "  " ++
            d.2.text := by
  obtain ⟨himage, hskipped⟩ := source.parse_codeText
  rw [hcarries] at himage
  refine ⟨himage, hskipped, fun m => ?_⟩
  rw [himage]
  have hload := Memory.load_of_le (m := m) hfits
  have hcode := Memory.holds_of_load hload
  have hlisting := Memory.listing_of_code hcode
  refine ⟨_, hload, ?_, hlisting, ?_⟩
  · intro k hk
    have hdecode := Memory.decode_of_code hcode k hk
    rwa [Nat.zero_add] at hdecode
  · rw [hlisting, List.map_map]
    rfl

/-- A program whose operands are opcodes, with a `HLT` in front of its last instruction. -/
def misleading : List Instruction := [.loadImmediate 1 130, .push 71, .halt, .multiply 1 69]

/-- Its code with both kinds of line ends, comments, blanks and lines that carry nothing. -/
def misleadingText : CodeText where
  lines :=
    [({ comment? := some ['0', '1', '#'] }, .carriage),
      ({ byte? := some 130, before := ['\t'], after := [' '], comment? := some ['L'] }, .carriage),
      ({ byte? := some 1 }, .feed), ({ byte? := some 130, after := ['\u3000'] }, .carriage),
      ({}, .feed), ({ byte? := some 69, before := [' ', '\r'] }, .feed), ({ byte? := some 71 }, .feed),
      ({ before := [' '] }, .carriage), ({ byte? := some 1, comment? := some [] }, .feed),
      ({ byte? := some 162 }, .feed), ({ byte? := some 1 }, .carriage)]
  last := { byte? := some 69, after := ['\r'], comment? := some ['e', 'n', 'd'] }

theorem text_to_listing_misleading :
    (parse misleadingText.text).image = [130, 1, 130, 69, 71, 1, 162, 1, 69] ∧
    ∃ loaded, (⟨Vector.replicate 256 1⟩ : Memory).load (parse misleadingText.text).image = .ok loaded ∧
      loaded.decode 3 = .ok (.push 71) ∧ loaded.decode 6 = .ok (.multiply 1 69) ∧
      (loaded.listing 9).map Listing.Line.text =
        ["00: 82 01 82  LDI R1,0x82", "03: 45 47     PUSH R71", "05: 01        HLT"] := by
  have hcarries : misleadingText.bytes = codeOf misleading := by decide
  have hfits : (codeOf misleading).length ≤ Memory.size := by decide
  obtain ⟨himage, -, hall⟩ := text_to_listing hcarries hfits
  obtain ⟨loaded, hload, hdecode, -, htext⟩ := hall ⟨Vector.replicate 256 1⟩
  refine ⟨himage, loaded, hload, hdecode 1 (by decide), hdecode 3 (by decide), htext.trans ?_⟩
  decide +kernel

end Program

end Ls8
