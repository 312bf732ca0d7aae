import Ls8.Proofs.ProgramText

/-!
# Bytes as program text

How bytes are written down as a program text: one in a line, as eight binary digits, between blanks
and with a comment behind them as it pleases the writer. Any number of lines may hold no byte. A line
ends in a line feed or in a carriage return and a line feed; what follows the last line feed is the
last line.

Whatever the blanks and the comments are, the bytes are read back, and no line is skipped.

Main results:

* `value_digits` — binary digits have the value of the number they write.
* `reads_line` — what is read in a line of such a text.
* `parse_codeText` — what is read in all of it.
-/

namespace Ls8

open Program

/-! ## Binary digits -/

namespace Numeral

/-- A binary digit is zero or one. -/
theorem digitChar_two {d : Nat} (h : d < 2) : d.digitChar = '0' ∨ d.digitChar = '1' := by
  have hall : ∀ d < 2, d.digitChar = '0' ∨ d.digitChar = '1' := by decide
  exact hall d h

theorem mem_toDigits_two {n : Nat} {c : Char} (h : c ∈ Nat.toDigits 2 n) : c = '0' ∨ c = '1' := by
  obtain ⟨d, hd, rfl⟩ := mem_toDigits Nat.one_lt_two h
  exact digitChar_two hd

theorem mem_digits_two {width n : Nat} {c : Char} (h : c ∈ digits 2 width n) :
    c = '0' ∨ c = '1' := by
  obtain ⟨d, hd, rfl⟩ := mem_digits Nat.one_lt_two h
  exact digitChar_two hd

theorem digits_ne_nil {width : Nat} (hw : 0 < width) (base n : Nat) : digits base width n ≠ [] := by
  have hlength := le_length_digits base width n
  exact List.ne_nil_of_length_pos (Nat.lt_of_lt_of_le hw hlength)

/-- Binary digits are read as the library reads them. -/
theorem value_eq_ofDigitChars {cs : List Char} (h : ∀ c ∈ cs, c = '0' ∨ c = '1') (acc : Nat) :
    value acc cs = Nat.ofDigitChars 2 cs acc := by
  induction cs generalizing acc with
  | nil => rfl
  | cons c cs ih =>
    have hrest := ih fun d hd => h d (List.mem_cons_of_mem _ hd)
    rcases h c (List.mem_cons_self ..) with rfl | rfl
    · exact hrest (2 * acc + 0)
    · exact hrest (2 * acc + 1)

theorem value_zeros (k : Nat) (cs : List Char) : value 0 (List.replicate k '0' ++ cs) = value 0 cs := by
  induction k with
  | zero => rfl
  | succ k ih => exact ih

theorem value_digits (width n : Nat) : value 0 (digits 2 width n) = n := by
  rw [digits, List.leftpad, value_zeros, value_eq_ofDigitChars fun c hc => mem_toDigits_two hc]
  exact Nat.ofDigitChars_toDigits Nat.one_lt_two (by decide)

end Numeral

/-! ## Texts that carry bytes -/

/-- A line that can be read: a byte or nothing, between blanks, with or without a comment. -/
structure CodeLine where
  byte? : Option UInt8 := none
  before : List Char := []
  after : List Char := []
  comment? : Option (List Char) := none
  blank : (before ++ after).all Text.isBlank = true := by decide
  /-- There is no line feed in a line. -/
  unbroken : '\n' ∉ before ++ after ++ comment?.getD [] := by decide

/-- How a line ends. -/
inductive LineEnd where
  | feed
  /-- A carriage return stands before the line feed. -/
  | carriage

/-- What stands before the line feed that ends a line. -/
def LineEnd.beforeFeed : LineEnd → List Char
  | feed => []
  | carriage => ['\r']

/-- A text all of whose lines can be read. -/
structure CodeText where
  lines : List (CodeLine × LineEnd)
  /-- What follows the last line feed. -/
  last : CodeLine := {}

namespace CodeLine

/-- The byte of a line in eight binary digits, or nothing. -/
def digits (l : CodeLine) : List Char :=
  match l.byte? with
  | none => []
  | some b => Numeral.digits 2 8 b.toNat

/-- The comment of a line with its `#`, or nothing. -/
def comment (l : CodeLine) : List Char :=
  match l.comment? with
  | none => []
  | some words => '#' :: words

def text (l : CodeLine) : List Char := l.before ++ l.digits ++ l.after ++ l.comment

/-- What a line is to be read as. -/
def reading (l : CodeLine) : Reading :=
  match l.byte? with
  | none => .nothing
  | some b => .byte b

end CodeLine

namespace CodeText

/-- The bytes that a text carries, in order. -/
def bytes (t : CodeText) : List UInt8 := (t.lines.map Prod.fst ++ [t.last]).filterMap CodeLine.byte?

/-- A line with its end. -/
def ended (l : CodeLine × LineEnd) : List Char := l.1.text ++ l.2.beforeFeed ++ ['\n']

/-- The characters of a text. -/
def chars (t : CodeText) : List Char := t.lines.flatMap ended ++ t.last.text

def text (t : CodeText) : String := String.ofList t.chars

end CodeText

/-! ## One line -/

namespace CodeLine

variable {l : CodeLine} {c : Char}

theorem mem_digits (h : c ∈ l.digits) : c = '0' ∨ c = '1' := by
  unfold digits at h
  split at h
  · cases h
  · exact Numeral.mem_digits_two h

theorem feed_notMem_text (l : CodeLine) : '\n' ∉ l.text := by
  have hunbroken := l.unbroken
  simp only [List.mem_append, not_or] at hunbroken
  obtain ⟨⟨hbefore, hafter⟩, hwords⟩ := hunbroken
  simp only [text, List.mem_append, not_or]
  refine ⟨⟨⟨hbefore, ?_⟩, hafter⟩, ?_⟩
  · intro hdigit
    rcases mem_digits hdigit with h | h <;> exact absurd h (by decide)
  · unfold comment
    cases hc : l.comment? with
    | none => exact List.not_mem_nil
    | some words =>
      rw [hc] at hwords
      rintro (_ | ⟨_, hmem⟩)
      exact hwords hmem

/-- Between blanks and in front of a comment, digits are what a line says. -/
theorem hasContent_of_parts {before after : List Char} (core rest : List Char)
    (hbefore : ∀ c ∈ before, Text.isBlank c = true) (hafter : ∀ c ∈ after, Text.isBlank c = true)
    (hcore : ∀ c ∈ core, c = '0' ∨ c = '1') (hrest : ∀ c, rest.head? = some c → c = '#') :
    HasContent (before ++ core ++ after ++ rest) core := by
  have hmark : ∀ {cs : List Char}, (∀ c ∈ cs, Text.isBlank c = true) → '#' ∉ cs :=
    fun h hmem => absurd (h '#' hmem) (by decide)
  have hdigit : ∀ c ∈ core, Text.isBlank c = false := by
    intro c hc
    rcases hcore c hc with rfl | rfl <;> decide
  refine ⟨before ++ core ++ after, rest, rfl, ?_, hrest, ⟨before, after, rfl, hbefore, hafter⟩, ?_, ?_⟩
  · simp only [List.mem_append, not_or]
    refine ⟨⟨hmark hbefore, ?_⟩, hmark hafter⟩
    intro hmem
    rcases hcore '#' hmem with h | h <;> exact absurd h (by decide)
  · exact fun c hc => hdigit c (List.mem_of_head? hc)
  · exact fun c hc => hdigit c (List.mem_of_getLast? hc)

theorem hasContent_text (l : CodeLine) (e : LineEnd) :
    HasContent (l.text ++ e.beforeFeed) l.digits := by
  have hblank := List.all_eq_true.1 l.blank
  simp only [List.mem_append] at hblank
  have hbefore : ∀ c ∈ l.before, Text.isBlank c = true := fun c hc => hblank c (Or.inl hc)
  have hafter : ∀ c ∈ l.after, Text.isBlank c = true := fun c hc => hblank c (Or.inr hc)
  unfold text comment
  cases l.comment? with
  | none =>
    -- a carriage return is one of the blanks behind the byte
    have hend : ∀ c ∈ l.after ++ e.beforeFeed, Text.isBlank c = true := by
      intro c hc
      rcases List.mem_append.1 hc with hc | hc
      · exact hafter c hc
      · cases e with
        | feed => cases hc
        | carriage =>
          rw [List.mem_singleton.1 hc]
          decide
    have hcontent := hasContent_of_parts l.digits [] hbefore hend (fun c => mem_digits)
      fun c hc => nomatch hc
    simpa only [List.append_assoc, List.append_nil] using hcontent
  | some words =>
    -- or else it is a part of the comment
    have hcontent := hasContent_of_parts l.digits ('#' :: (words ++ e.beforeFeed)) hbefore hafter
      (fun c => mem_digits) fun c hc => (Option.some.inj hc).symm
    simpa only [List.append_assoc, List.cons_append] using hcontent

theorem reads_line (l : CodeLine) (e : LineEnd) : Reads (l.text ++ e.beforeFeed) l.reading := by
  have hcontent := hasContent_text l e
  unfold digits at hcontent
  unfold reading
  cases hbyte : l.byte? with
  | none =>
    rw [hbyte] at hcontent
    exact .nothing hcontent
  | some b =>
    rw [hbyte] at hcontent
    refine .byte hcontent ⟨_, Or.inl rfl, ?_, ?_, ?_⟩
    · exact Numeral.digits_ne_nil (by decide) 2 b.toNat
    · exact fun c => Numeral.mem_digits_two
    · exact Numeral.value_digits 8 b.toNat

end CodeLine

/-! ## Whole texts -/

namespace CodeText

/-- The last line counts unless it is empty. -/
theorem lines_chars (t : CodeText) :
    Text.lines t.chars = t.lines.map (fun l => l.1.text ++ l.2.beforeFeed) ++
      if t.last.text = [] then [] else [t.last.text] := by
  obtain ⟨lines, last⟩ := t
  unfold chars
  -- each line but the last is cut off by its line feed
  induction lines with
  | nil =>
    show Text.lines last.text = if last.text = [] then [] else [last.text]
    split
    next hempty => rw [hempty, Text.lines]
    next hne => exact Text.lines_of_no_feed last.feed_notMem_text hne
  | cons l lines ih =>
    have hfeed : '\n' ∉ l.1.text ++ l.2.beforeFeed := by
      rw [List.mem_append, not_or]
      refine ⟨l.1.feed_notMem_text, ?_⟩
      cases l.2 <;> decide
    have hline := Text.lines_append_feed hfeed (lines.flatMap ended ++ last.text)
    rw [ih] at hline
    simpa [ended] using hline

/-- The lines of a text and their readings; if the last line is empty, it has none. -/
theorem readings_chars (t : CodeText) :
    ∃ rest, (Text.lines t.chars).map readingOf = t.lines.map (·.1.reading) ++ rest ∧
      (rest = [t.last.reading] ∨ t.last.byte? = none ∧ rest = []) := by
  have hreading : ∀ (l : CodeLine) (e : LineEnd), readingOf (l.text ++ e.beforeFeed) = l.reading :=
    fun l e => (reads_iff.1 (l.reads_line e)).symm
  rw [lines_chars, List.map_append, List.map_map]
  refine ⟨_, congrArg (· ++ _) (List.map_congr_left fun l _ => hreading l.1 l.2), ?_⟩
  split
  next hempty =>
    refine Or.inr ⟨?_, rfl⟩
    -- a byte would have left its digits
    have hdigits : t.last.digits = [] := by
      simp only [CodeLine.text, List.append_eq_nil_iff] at hempty
      exact hempty.1.1.2
    cases hbyte : t.last.byte? with
    | none => rfl
    | some b =>
      rw [CodeLine.digits, hbyte] at hdigits
      exact absurd hdigits (Numeral.digits_ne_nil (by decide) 2 b.toNat)
  next =>
    have hlast := hreading t.last .feed
    rw [LineEnd.beforeFeed, List.append_nil] at hlast
    exact Or.inl (by rw [List.map_singleton, hlast])

theorem byte?_reading (l : CodeLine) : l.reading.byte? = l.byte? := by
  unfold CodeLine.reading
  cases l.byte? <;> rfl

theorem entry?_reading (l : CodeLine) (number : Nat) : l.reading.entry? number = none := by
  unfold CodeLine.reading
  cases l.byte? <;> rfl

/-- The bytes that a text carries are read from it, and nothing is skipped. -/
theorem parse_codeText (t : CodeText) :
    (parse t.text).image = t.bytes ∧ (parse t.text).skipEvents = [] := by
  obtain ⟨rest, hreadings, hrest⟩ := readings_chars t
  have hchars : t.text.toList = t.chars := String.toList_ofList
  have hlines : (t.lines.map (·.1.reading)).filterMap Reading.byte? =
      (t.lines.map Prod.fst).filterMap CodeLine.byte? := by
    rw [List.filterMap_map, List.filterMap_map]
    exact List.filterMap_congr fun l _ => byte?_reading l.1
  refine ⟨?_, ?_⟩
  · rw [parse_image, hchars, hreadings, List.filterMap_append, hlines, bytes,
      List.filterMap_append]
    rcases hrest with rfl | ⟨hnone, rfl⟩
    · simp only [List.filterMap_cons, List.filterMap_nil, byte?_reading]
    · simp only [List.filterMap_cons, List.filterMap_nil, hnone]
  · have hentries := parse_skipEvents t.text
    rw [hchars, hreadings] at hentries
    -- no line of the text gives an entry to the log
    have hnone : ∀ r ∈ t.lines.map (·.1.reading) ++ rest, ∀ number, r.entry? number = none := by
      intro r hr number
      rcases List.mem_append.1 hr with hr | hr
      · obtain ⟨l, -, rfl⟩ := List.mem_map.1 hr
        exact entry?_reading l.1 number
      · rcases hrest with rfl | ⟨-, rfl⟩
        · rw [List.mem_singleton.1 hr]
          exact entry?_reading t.last number
        · cases hr
    rw [List.filterMap_eq_nil_iff.2 fun rn hrn => hnone rn.1 (List.fst_mem_of_mem_zipIdx hrn) rn.2]
      at hentries
    exact List.map_eq_nil_iff.1 hentries

end CodeText

end Ls8
