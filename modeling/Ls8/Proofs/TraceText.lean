import Ls8.Machine
import Ls8.Proofs.Hexadecimal

/-!
# The text of a trace line

A trace line is a row of words, with one blank between two: a mark, the program counter, a bar, three
bytes, a bar, eight registers. No word has a blank in it and none but the two bars is a bar, so the words
and the three columns between the bars can be read off the text again, however many digits the program
counter takes. Nothing in a column is lost either, because a numeral tells its number.

The three bytes are the ones that decoding fetches. An instruction that decodes ends inside memory, and
the dashes that stand for what is outside come behind it.

Main results:

* `columns_traceLine` — the columns are read back.
* `cellText_eq_iff` — what is shown for an address tells what is there.
* `trace_line_faithful` — what equal lines say of two machines, and a line of what is decoded.
-/

namespace Ls8

open Numeral

namespace TraceText

/-! ## Reading a line -/

/-- The words of a text, with a blank between two. -/
def words (text : String) : List (List Char) := text.toList.splitOn ' '

/-- The columns of a trace line, with a bar between two, each as its words. -/
def columns (line : String) : List (List (List Char)) := (words line).splitOn ['|']

/-- The entries of the byte column. -/
def byteColumn (line : String) : List (List Char) := (columns line).getD 1 []

theorem words_intercalate {parts : List String} (hne : parts ≠ [])
    (h : ∀ part ∈ parts, ' ' ∉ part.toList) :
    words (String.intercalate " " parts) = parts.map String.toList := by
  rw [words, String.toList_intercalate]
  refine List.splitOn_intercalate ' ' ?_ ?_
  · intro word hword
    obtain ⟨part, hpart, rfl⟩ := List.mem_map.1 hword
    exact h part hpart
  · exact fun hnil => hne (List.map_eq_nil_iff.1 hnil)

end TraceText

/-- Two memories read alike at an address that holds the same byte in both, or that is in neither. -/
theorem Memory.read_eq_read_iff {m m' : Memory} {addr : Nat} :
    m.read addr = m'.read addr ↔
      (∃ b, m.read addr = .ok b ∧ m'.read addr = .ok b) ∨ size ≤ addr := by
  constructor
  · intro h
    rcases Nat.lt_or_ge addr size with hlt | hge
    · have hread := read_of_lt (m := m) hlt
      exact .inl ⟨_, hread, h ▸ hread⟩
    · exact .inr hge
  · rintro (⟨b, h, h'⟩ | hge)
    · rw [h, h']
    · rw [read_of_le hge, read_of_le hge]

namespace Machine

open TraceText

variable {m m' : Machine} {addr : Nat} {b : UInt8} {inst : Instruction}

/-- The program counter as a word. -/
def pcText (m : Machine) : String := upperHex 2 m.pc

/-- The bytes as words. -/
def cellTexts (m : Machine) : List String :=
  (List.range traceWindow).map fun k => m.cellText (m.pc + k)

/-- The registers as words. -/
def registerTexts (m : Machine) : List String :=
  m.registers.toList.map fun r => upperHex 2 r.toNat

theorem cellTexts_ne_nil (m : Machine) : m.cellTexts ≠ [] := List.cons_ne_nil _ _

theorem registerTexts_ne_nil (m : Machine) : m.registerTexts ≠ [] := by
  intro h
  have hlength := congrArg List.length h
  simp [registerTexts, Registers.toList] at hlength

/-- An entry of a column: the program counter, a byte or a register. -/
def IsEntry (m : Machine) (text : String) : Prop :=
  text = m.pcText ∨ text ∈ m.cellTexts ∨ text ∈ m.registerTexts

/-- Entries are written with the sixteen digits and with dashes. -/
theorem mem_of_isEntry {text : String} (h : m.IsEntry text) {c : Char} (hc : c ∈ text.toList) :
    c ∈ '-' :: hexAlphabet := by
  rcases h with rfl | hcell | hregister
  · exact List.mem_cons_of_mem _ (mem_upperHex hc)
  · -- a byte outside memory is the one place for dashes
    obtain ⟨k, -, rfl⟩ := List.mem_map.1 hcell
    unfold cellText at hc
    split at hc
    · exact List.mem_cons_of_mem _ (mem_upperHex hc)
    · have hdash : c = '-' := by simpa using hc
      rw [hdash]
      exact List.mem_cons_self
  · obtain ⟨r, -, rfl⟩ := List.mem_map.1 hregister
    exact List.mem_cons_of_mem _ (mem_upperHex hc)

theorem blank_notMem_of_isEntry {text : String} (h : m.IsEntry text) : ' ' ∉ text.toList :=
  fun hc => absurd (mem_of_isEntry h hc) (by decide)

theorem ne_bar_of_isEntry {text : String} (h : m.IsEntry text) : text.toList ≠ ['|'] := by
  intro hbar
  have hmem : '|' ∈ text.toList := hbar ▸ List.mem_cons_self
  exact absurd (mem_of_isEntry h hmem) (by decide)

/-- A trace line is a row of words. -/
theorem traceLine_eq (m : Machine) :
    m.traceLine = String.intercalate " "
      ("TRACE:" :: m.pcText :: "|" :: (m.cellTexts ++ "|" :: m.registerTexts)) := by
  -- the blanks of the line are written together with its mark and its bars
  have hbar : " | " = " " ++ "|" ++ " " := by decide
  have hmark : "TRACE: " = "TRACE:" ++ " " := by decide
  rw [String.intercalate_cons_cons, String.intercalate_cons_cons,
    String.intercalate_cons_of_ne_nil (List.append_ne_nil_of_right_ne_nil _ (List.cons_ne_nil _ _)),
    String.intercalate_append_of_ne_nil m.cellTexts_ne_nil (List.cons_ne_nil _ _),
    String.intercalate_cons_of_ne_nil m.registerTexts_ne_nil, traceLine, hbar, hmark]
  simp only [String.append_assoc]
  rfl

/-- None of the words has a blank in it, so they are found again. -/
theorem words_traceLine (m : Machine) :
    words m.traceLine = "TRACE:".toList :: m.pcText.toList :: ['|'] ::
      (m.cellTexts.map String.toList ++ ['|'] :: m.registerTexts.map String.toList) := by
  rw [traceLine_eq, words_intercalate (List.cons_ne_nil _ _)]
  · simp only [List.map_cons, List.map_append]
    rfl
  · intro part hpart
    simp only [List.mem_cons, List.mem_append] at hpart
    rcases hpart with rfl | rfl | rfl | hcell | rfl | hregister
    · decide
    · exact blank_notMem_of_isEntry (.inl rfl)
    · decide
    · exact blank_notMem_of_isEntry (.inr (.inl hcell))
    · decide
    · exact blank_notMem_of_isEntry (.inr (.inr hregister))

/-- The columns of a trace line. -/
theorem columns_traceLine (m : Machine) :
    columns m.traceLine =
      [["TRACE:".toList, m.pcText.toList], m.cellTexts.map String.toList,
        m.registerTexts.map String.toList] := by
  have hparts : words m.traceLine = [['|']].intercalate
      [["TRACE:".toList, m.pcText.toList], m.cellTexts.map String.toList,
        m.registerTexts.map String.toList] := by
    rw [words_traceLine]
    simp [List.intercalate_cons_cons, List.intercalate_singleton]
  rw [columns, hparts]
  -- splitting finds the columns because no word of any of them is a bar
  refine List.splitOn_intercalate ['|'] ?_ (List.cons_ne_nil _ _)
  intro column hcolumn hbar
  simp only [List.mem_cons, List.not_mem_nil, or_false] at hcolumn
  rcases hcolumn with rfl | rfl | rfl
  · simp only [List.mem_cons, List.not_mem_nil, or_false] at hbar
    rcases hbar with hmark | hpc
    · exact absurd hmark (by decide)
    · exact ne_bar_of_isEntry (.inl rfl) hpc.symm
  · obtain ⟨text, htext, heq⟩ := List.mem_map.1 hbar
    exact ne_bar_of_isEntry (.inr (.inl htext)) heq
  · obtain ⟨text, htext, heq⟩ := List.mem_map.1 hbar
    exact ne_bar_of_isEntry (.inr (.inr htext)) heq

theorem byteColumn_traceLine (m : Machine) :
    byteColumn m.traceLine = m.cellTexts.map String.toList := by
  rw [byteColumn, columns_traceLine]
  rfl

/-! ## What the entries tell -/

theorem cellText_of_read (h : m.memory.read addr = .ok b) :
    m.cellText addr = upperHex 2 b.toNat := by
  rw [cellText, h]

/-- At one address two entries are the same if the same byte is there, or none. -/
theorem cellText_eq_iff :
    m.cellText addr = m'.cellText addr ↔ m.memory.read addr = m'.memory.read addr := by
  refine ⟨fun h => ?_, fun h => by rw [cellText, cellText, h]⟩
  by_cases haddr : addr < Memory.size
  · rw [cellText_of_read (Memory.read_of_lt haddr), cellText_of_read (Memory.read_of_lt haddr),
      upperHex_inj, UInt8.toNat_inj] at h
    rw [Memory.read_of_lt haddr, Memory.read_of_lt haddr, h]
  · -- outside memory nothing is there, whatever machine it is
    have hle : Memory.size ≤ addr := Nat.le_of_not_lt haddr
    rw [Memory.read_of_le hle, Memory.read_of_le hle]

theorem registerTexts_eq_iff : m.registerTexts = m'.registerTexts ↔ m.registers = m'.registers := by
  refine ⟨fun h => ?_, fun h => by rw [registerTexts, registerTexts, h]⟩
  have hcells : m.registers.cells.toList = m'.registers.cells.toList := by
    refine (List.map_inj_right ?_).1 h
    intro a b hab
    exact UInt8.toNat_inj.1 (upperHex_inj.1 hab)
  exact congrArg Registers.mk (Vector.toList_inj.1 hcells)

/-- The instruction that is decoded is shown by its bytes, at the beginning of the byte column. -/
theorem take_byteColumn_of_decode (h : m.memory.decode m.pc = .ok inst) :
    (byteColumn m.traceLine).take inst.width = inst.encode.map hexPair := by
  have hholds := Memory.holds_iff.1 (Memory.decode_eq_ok_iff.1 h)
  have hwindow : inst.width ≤ traceWindow := inst.width_le_three
  rw [byteColumn_traceLine, cellTexts, List.map_map, ← List.map_take, List.take_range,
    Nat.min_eq_left hwindow, ← inst.length_encode]
  -- both have one entry for each byte of the instruction, and memory holds that byte
  refine List.ext_getElem (by simp) fun k hk _ => ?_
  have hlt : k < inst.encode.length := by simpa using hk
  rw [List.getElem_map, List.getElem_map, List.getElem_range, Function.comp_apply,
    cellText_of_read (hholds k hlt), toList_upperHex_two (inst.encode[k]).toNat_lt]
  rfl

/-- Two machines agree in what a trace line is to show: program counter and registers, and at each of
the three addresses from the program counter on the same byte, unless the address is outside memory. -/
structure SameView (m m' : Machine) : Prop where
  pc        : m.pc = m'.pc
  registers : m.registers = m'.registers
  cells     : ∀ addr, m.pc ≤ addr → addr ≤ m.pc + 2 →
                (∃ b, m.memory.read addr = .ok b ∧ m'.memory.read addr = .ok b) ∨ Memory.size ≤ addr

theorem cellTexts_eq_iff (hpc : m.pc = m'.pc) :
    m.cellTexts = m'.cellTexts ↔
      ∀ addr, m.pc ≤ addr → addr ≤ m.pc + 2 → m.memory.read addr = m'.memory.read addr := by
  rw [cellTexts, cellTexts, ← hpc, List.map_inj_left]
  simp only [List.mem_range, traceWindow, cellText_eq_iff]
  constructor
  · intro h addr hfrom hto
    -- an address of the three is the program counter and less than three more
    obtain ⟨k, rfl⟩ := Nat.exists_eq_add_of_le hfrom
    exact h k (by omega)
  · intro h k hk
    exact h (m.pc + k) (by omega) (by omega)

/-- Two machines have the same line if they agree in what it shows, and only then. -/
theorem traceLine_eq_iff : m.traceLine = m'.traceLine ↔ SameView m m' := by
  constructor
  · intro h
    have hcolumns := columns_traceLine m
    rw [h, columns_traceLine m'] at hcolumns
    simp only [List.cons.injEq, true_and, and_true] at hcolumns
    obtain ⟨hpcText, hcellTexts, hregisterTexts⟩ := hcolumns
    -- no text is lost when it is taken as its characters
    have htexts : ∀ {xs ys : List String}, xs.map String.toList = ys.map String.toList → ys = xs :=
      fun h => ((List.map_inj_right fun _ _ => String.toList_inj.1).1 h).symm
    have hpc : m.pc = m'.pc := (upperHex_inj.1 (String.toList_inj.1 hpcText)).symm
    have hcells := (cellTexts_eq_iff hpc).1 (htexts hcellTexts)
    exact ⟨hpc, registerTexts_eq_iff.1 (htexts hregisterTexts),
      fun addr hfrom hto => Memory.read_eq_read_iff.1 (hcells addr hfrom hto)⟩
  · intro h
    have hcells := fun addr hfrom hto => Memory.read_eq_read_iff.2 (h.cells addr hfrom hto)
    rw [traceLine_eq, traceLine_eq, (cellTexts_eq_iff h.pc).2 hcells,
      registerTexts_eq_iff.2 h.registers, pcText, pcText, h.pc]

/--
**A trace line shows the state faithfully.** Two machines have the same trace line exactly if their
program counters and all their registers are equal and at each of the three addresses from the program
counter on both have the same byte or the address is outside memory. It makes no difference how many
digits the program counter has.

If an instruction decodes at the program counter, the byte column begins with the bytes of the
instruction, each as two upper-case digits, and there are no dashes among them.
-/
theorem trace_line_faithful (m : Machine) :
    (∀ m' : Machine, m.traceLine = m'.traceLine ↔ SameView m m') ∧
    ∀ inst, m.memory.decode m.pc = .ok inst →
      (byteColumn m.traceLine).take inst.width = inst.encode.map hexPair ∧
      ∀ entry ∈ (byteColumn m.traceLine).take inst.width, entry ≠ "--".toList := by
  refine ⟨fun m' => traceLine_eq_iff, fun inst hd => ?_⟩
  have hbytes := take_byteColumn_of_decode hd
  refine ⟨hbytes, fun entry hentry hdashes => ?_⟩
  -- an entry of dashes would have one among its digits
  obtain ⟨b, -, rfl⟩ := List.mem_map.1 (hbytes ▸ hentry)
  have hdash : '-' ∈ hexPair b := hdashes ▸ List.mem_cons_self
  exact absurd (mem_hexPair hdash) (by decide)

/-- Zeros, but for a byte in the first cell and `PUSH R3` in the last two. -/
def pushAtEnd (first : UInt8) : Memory where
  cells := (((Vector.replicate 256 0).set 0 first (by decide)).set 254 69 (by decide)).set 255 3
    (by decide)

/-- A new machine with that memory, and any program counter. -/
def pushesAtEnd (pc : Nat) (first : UInt8) : Machine :=
  { ofConfig {} with pc, memory := pushAtEnd first }

/-- The instruction ends with memory, so its bytes are shown and dashes follow. A cell that is not shown
may differ, and one more digit of the program counter makes another line. -/
theorem trace_line_faithful_pushesAtEnd :
    (pushesAtEnd 254 0).memory.decode 254 = .ok (.push 3) ∧
    (byteColumn (pushesAtEnd 254 0).traceLine).take 2 = [['4', '5'], ['0', '3']] ∧
    (pushesAtEnd 254 0).memory.read 256 = .error (.addressOutOfRange 256) ∧
    (pushesAtEnd 254 0).traceLine = (pushesAtEnd 254 1).traceLine ∧
    (pushesAtEnd 254 0).traceLine ≠ (pushesAtEnd 0xFE0 0).traceLine := by
  obtain ⟨halike, hbytes⟩ := trace_line_faithful (pushesAtEnd 254 0)
  have hd : (pushesAtEnd 254 0).memory.decode 254 = .ok (.push 3) := rfl
  refine ⟨hd, (hbytes _ hd).1, rfl, (halike _).2 ⟨rfl, rfl, fun addr hfrom hto => ?_⟩, fun h => ?_⟩
  · have hthree : addr = 254 ∨ addr = 255 ∨ addr = 256 := by
      change 254 ≤ addr at hfrom
      change addr ≤ 256 at hto
      omega
    rcases hthree with rfl | rfl | rfl
    · exact .inl ⟨69, rfl, rfl⟩
    · exact .inl ⟨3, rfl, rfl⟩
    · exact .inr (Nat.le_refl _)
  · exact absurd ((halike _).1 h).pc (by decide)

end Machine

end Ls8
