import Mathlib.Data.List.Forall2
import Ls8.Machine.Loading
import Ls8.Proofs.Lines

/-!
# Program texts

What a program text means, line by line: a line says nothing, or a byte, or something that is no byte
and is left out. `Reads` says which, without regard to how a line is read. The image is made of the
bytes in their order, and the log has one entry for every line that was left out, with its number
among all lines.

A text that is no byte is left out for one of two reasons. Digits are read from the left, and a digit
counts before what follows it is looked at; so the value is too large exactly if that of the binary
digits at the beginning is, and whatever stands behind them does not matter then.

Main results:

* `readByte_eq_ok_iff` — which texts are bytes.
* `readByte_eq_tooLarge_iff` — which of the others are too large.
* `reads_iff` — every line has exactly one reading.
* `parse_reads_lines` — the image and the log of a program text, from the readings of its lines.
-/

namespace Ls8

/-- An event as the log shows it: its level, its message and its fields. -/
def Event.entry (e : Event) : Level × String × List (String × Event.Value) :=
  (e.level, e.message, e.fields)

namespace Program

/-! ## Bytes -/

def isBinaryDigit (c : Char) : Bool := c = '0' || c = '1'

/-- A text without the one plus sign that it may begin with. -/
def unsigned (content : List Char) : List Char :=
  if content.head? = some '+' then content.tail else content

/-- The binary digits that a text begins with, behind a plus sign if there is one. -/
def leadingDigits (content : List Char) : List Char := (unsigned content).takeWhile isBinaryDigit

/-- A text is a byte if it has one or more binary digits, with at most one plus sign in front of them,
whose value is that of the byte. -/
def IsByte (content : List Char) (b : UInt8) : Prop :=
  ∃ digits, (content = digits ∨ content = '+' :: digits) ∧ digits ≠ [] ∧
    (∀ c ∈ digits, c = '0' ∨ c = '1') ∧ value 0 digits = b.toNat

theorem isBinaryDigit_iff {c : Char} : isBinaryDigit c = true ↔ c = '0' ∨ c = '1' := by
  simp [isBinaryDigit]

theorem readByte_eq (content : List Char) :
    readByte content = if (unsigned content).isEmpty then .error .invalidDigit
      else (readDigits 0 (unsigned content)).map UInt8.ofNat := rfl

/-- Digits are too large exactly if the value of the binary digits at their beginning is. -/
theorem readDigits_eq_tooLarge_iff {acc : Nat} {cs : List Char} (hacc : acc ≤ 255) :
    readDigits acc cs = .error .tooLarge ↔ 255 < value acc (cs.takeWhile isBinaryDigit) := by
  induction cs generalizing acc with
  | nil =>
    simp only [readDigits, List.takeWhile_nil, value, List.foldl_nil, reduceCtorEq, false_iff]
    omega
  | cons c cs ih =>
    rw [readDigits]
    cases hd : digitValue? c with
    | none =>
      -- reading stops here, below the bound
      have hc : isBinaryDigit c = false := by
        rw [Bool.eq_false_iff]
        intro hbinary
        rcases isBinaryDigit_iff.1 hbinary with rfl | rfl <;> cases hd
      rw [List.takeWhile_cons_of_neg (by simp [hc])]
      simp only [value, List.foldl_nil, Except.error.injEq, reduceCtorEq, false_iff]
      omega
    | some d =>
      have hc : isBinaryDigit c = true := by
        rw [isBinaryDigit_iff]
        rcases digitValue?_eq_some_iff.1 hd with ⟨h, -⟩ | ⟨h, -⟩
        · exact Or.inl h
        · exact Or.inr h
      have hv : value acc (c :: cs.takeWhile isBinaryDigit) =
          value (2 * acc + d) (cs.takeWhile isBinaryDigit) := by
        rcases digitValue?_eq_some_iff.1 hd with ⟨rfl, rfl⟩ | ⟨rfl, rfl⟩ <;> rfl
      rw [List.takeWhile_cons_of_pos hc, hv]
      show (if 2 * acc + d ≤ 255 then _ else _) = _ ↔ _
      split
      next hle => exact ih hle
      next hgt =>
        -- further digits only add to the value
        have hmore := le_value (2 * acc + d) (cs.takeWhile isBinaryDigit)
        simp only [true_iff]
        omega

/-- The digits of a byte are what is left without the plus sign. -/
theorem unsigned_eq_of_digits {content digits : List Char}
    (h : content = digits ∨ content = '+' :: digits) (hdigits : ∀ c ∈ digits, c = '0' ∨ c = '1') :
    unsigned content = digits := by
  rcases h with rfl | rfl
  · -- a plus sign is no digit
    have hplus : content.head? ≠ some '+' := by
      intro hhead
      rcases hdigits '+' (List.mem_of_head? hhead) with hc | hc
      · exact absurd hc (by decide)
      · exact absurd hc (by decide)
    rw [unsigned, if_neg hplus]
  · rfl

theorem eq_unsigned_or (content : List Char) :
    content = unsigned content ∨ content = '+' :: unsigned content := by
  unfold unsigned
  split
  next hhead =>
    obtain ⟨rest, rfl⟩ := List.head?_eq_some_iff.1 hhead
    exact Or.inr rfl
  next => exact Or.inl rfl

/-- Bytes are read, and nothing else is read as one. -/
theorem readByte_eq_ok_iff {content : List Char} {b : UInt8} :
    readByte content = .ok b ↔ IsByte content b := by
  rw [readByte_eq]
  constructor
  · intro h
    split at h
    next => cases h
    next hne =>
      have hdigits : unsigned content ≠ [] := fun hnil => hne (List.isEmpty_iff.2 hnil)
      cases hread : readDigits 0 (unsigned content) with
      | error e =>
        rw [hread] at h
        cases h
      | ok n =>
        rw [hread] at h
        obtain rfl : UInt8.ofNat n = b := Except.ok.inj h
        obtain ⟨hbinary, hvalue, hn⟩ := (readDigits_eq_ok_iff (Nat.zero_le _)).1 hread
        refine ⟨unsigned content, eq_unsigned_or content, hdigits, hbinary, ?_⟩
        rw [hvalue, UInt8.toNat_ofNat_of_lt' (Nat.lt_succ_of_le hn)]
  · rintro ⟨digits, hcontent, hne, hbinary, hvalue⟩
    have hb : b.toNat ≤ 255 := Nat.le_of_lt_succ b.toNat_lt
    have hread : readDigits 0 digits = .ok b.toNat :=
      (readDigits_eq_ok_iff (Nat.zero_le _)).2 ⟨hbinary, hvalue, hb⟩
    rw [unsigned_eq_of_digits hcontent hbinary, if_neg fun h => hne (List.isEmpty_iff.1 h), hread]
    show Except.ok (UInt8.ofNat b.toNat) = _
    rw [UInt8.ofNat_toNat]

theorem readByte_eq_tooLarge_iff {content : List Char} :
    readByte content = .error .tooLarge ↔ 255 < value 0 (leadingDigits content) := by
  rw [readByte_eq, leadingDigits, ← readDigits_eq_tooLarge_iff (Nat.zero_le _)]
  split
  next hempty =>
    rw [List.isEmpty_iff.1 hempty]
    simp [readDigits]
  next => cases readDigits 0 (unsigned content) <;> simp [Except.map]

/-! ## Lines -/

/-- What a line of a program text is read as. -/
inductive Reading where
  | nothing
  | byte (b : UInt8)
  /-- Left out, with the content of the line and the reason. -/
  | skipped (content : List Char) (reason : String)

/-- The byte that a line gives to the image. -/
def Reading.byte? : Reading → Option UInt8
  | byte b => some b
  | _ => none

/-- The entry that a line gives to the log, by its number. -/
def Reading.entry? (number : Nat) : Reading → Option (Level × String × List (String × Event.Value))
  | skipped content reason =>
    some (.debug, "skipping malformed program line: " ++ reason,
      [("line", .number number), ("text", .quoted (String.ofList content))])
  | _ => none

/-- How a line is to be read. -/
inductive Reads (line : List Char) : Reading → Prop
  | nothing (said : HasContent line []) : Reads line .nothing
  | byte {content : List Char} {b : UInt8} (said : HasContent line content) (isByte : IsByte content b) :
      Reads line (.byte b)
  | tooLarge {content : List Char} (said : HasContent line content) (ne : content ≠ [])
      (noByte : ∀ b, ¬ IsByte content b) (large : 255 < value 0 (leadingDigits content)) :
      Reads line (.skipped content "number too large to fit in target type")
  | invalidDigit {content : List Char} (said : HasContent line content) (ne : content ≠ [])
      (noByte : ∀ b, ¬ IsByte content b) (small : ¬ 255 < value 0 (leadingDigits content)) :
      Reads line (.skipped content "invalid digit found in string")

/-- The reading of a line, as the reader of bytes finds it. -/
def readingOf (line : List Char) : Reading :=
  if (contentOf line).isEmpty then .nothing
  else
    match readByte (contentOf line) with
    | .ok b => .byte b
    | .error cause => .skipped (contentOf line) cause.message

theorem readingOf_of_ok {line : List Char} {b : UInt8} (hne : contentOf line ≠ [])
    (h : readByte (contentOf line) = .ok b) : readingOf line = .byte b := by
  rw [readingOf, if_neg fun hempty => hne (List.isEmpty_iff.1 hempty), h]

theorem readingOf_of_error {line : List Char} {cause : ByteError} (hne : contentOf line ≠ [])
    (h : readByte (contentOf line) = .error cause) :
    readingOf line = .skipped (contentOf line) cause.message := by
  rw [readingOf, if_neg fun hempty => hne (List.isEmpty_iff.1 hempty), h]

/-- What is no byte is left out as too large, or else for a digit. -/
theorem readByte_eq_error {content : List Char} (hno : ∀ b, ¬ IsByte content b) :
    readByte content =
      .error (if 255 < value 0 (leadingDigits content) then .tooLarge else .invalidDigit) := by
  cases h : readByte content with
  | ok b => exact absurd (readByte_eq_ok_iff.1 h) (hno b)
  | error cause =>
    have hlarge : readByte content = .error .tooLarge ↔ 255 < value 0 (leadingDigits content) :=
      readByte_eq_tooLarge_iff
    rw [h] at hlarge
    by_cases hover : 255 < value 0 (leadingDigits content)
    · rw [hlarge.2 hover, if_pos hover]
    · rw [if_neg hover]
      -- there is only the other reason
      cases cause with
      | invalidDigit => rfl
      | tooLarge => exact absurd (hlarge.1 rfl) hover

theorem reads_readingOf (line : List Char) : Reads line (readingOf line) := by
  have hsaid : HasContent line (contentOf line) := hasContent_iff.2 rfl
  by_cases hne : contentOf line = []
  · rw [readingOf, hne]
    exact .nothing (hne ▸ hsaid)
  · by_cases hbyte : ∃ b, IsByte (contentOf line) b
    · obtain ⟨b, hb⟩ := hbyte
      rw [readingOf_of_ok hne (readByte_eq_ok_iff.2 hb)]
      exact .byte hsaid hb
    · have hno := not_exists.1 hbyte
      have herror := readByte_eq_error hno
      rw [readingOf_of_error hne herror]
      split
      next hlarge => exact .tooLarge hsaid hne hno hlarge
      next hsmall => exact .invalidDigit hsaid hne hno hsmall

/-- Every line has exactly one reading. -/
theorem reads_iff {line : List Char} {r : Reading} : Reads line r ↔ r = readingOf line := by
  constructor
  · intro h
    cases h with
    | nothing hsaid =>
      have hcontent : [] = contentOf line := hasContent_iff.1 hsaid
      rw [readingOf, ← hcontent]
      rfl
    | @byte content b hsaid hb =>
      obtain rfl := hasContent_iff.1 hsaid
      have hread := readByte_eq_ok_iff.2 hb
      have hne : contentOf line ≠ [] := by
        intro hnil
        rw [hnil] at hread
        cases hread
      exact (readingOf_of_ok hne hread).symm
    | tooLarge hsaid hne hno hlarge =>
      obtain rfl := hasContent_iff.1 hsaid
      have herror := readByte_eq_error hno
      rw [if_pos hlarge] at herror
      exact (readingOf_of_error hne herror).symm
    | invalidDigit hsaid hne hno hsmall =>
      obtain rfl := hasContent_iff.1 hsaid
      have herror := readByte_eq_error hno
      rw [if_neg hsmall] at herror
      exact (readingOf_of_error hne herror).symm
  · rintro rfl
    exact reads_readingOf line

theorem forall₂_reads_iff {lines : List (List Char)} {readings : List Reading} :
    List.Forall₂ Reads lines readings ↔ readings = lines.map readingOf := by
  induction lines generalizing readings with
  | nil => simp
  | cons line lines ih => simp [List.forall₂_cons_left_iff, reads_iff, ih]

/-! ## Texts -/

/-- The image has the bytes that the lines are read as. -/
theorem parse_image (source : String) :
    (parse source).image =
      ((Text.lines source.toList).map readingOf).filterMap Reading.byte? := by
  -- the numbers of the lines have no part in it
  rw [← List.zipIdx_map_fst 1 (Text.lines source.toList), List.map_map, List.filterMap_map]
  simp only [parse, contents, List.filterMap_filterMap]
  apply List.filterMap_congr
  rintro ⟨line, number⟩ -
  simp only [Function.comp_apply, readingOf]
  split
  · rfl
  · show (readByte (contentOf line)).toOption = _
    cases readByte (contentOf line) <;> rfl

/-- The log has the entries that the lines give to it. -/
theorem parse_skipEvents (source : String) :
    (parse source).skipEvents.map Event.entry =
      (((Text.lines source.toList).map readingOf).zipIdx 1).filterMap
        fun (reading, number) => reading.entry? number := by
  rw [List.zipIdx_map, List.filterMap_map, skipEvents, List.map_map]
  simp only [parse, contents, List.filterMap_filterMap, List.map_filterMap]
  apply List.filterMap_congr
  rintro ⟨line, number⟩ -
  simp only [Function.comp_apply, Prod.map, readingOf]
  split
  · rfl
  · rw [Option.bind_some]
    cases readByte (contentOf line) <;> rfl

/--
**A program text, line by line.** Each of the pieces of a text has exactly one reading: nothing, a
byte, or something to be left out for one of two reasons. The image has the bytes of these readings in
order, and nothing else. The log has one entry for every piece that is left out, in order, at debug
level: the reason, the number of the piece counted from 1, and what it says; and no other entry.
-/
theorem parse_reads_lines (source : String) :
    ∃ readings : List Reading,
      (∀ rs, List.Forall₂ Reads (Text.pieces source.toList) rs ↔ rs = readings) ∧
      (parse source).image = readings.filterMap Reading.byte? ∧
      (parse source).skipEvents.map Event.entry =
        (readings.zipIdx 1).filterMap fun (reading, number) => reading.entry? number := by
  refine ⟨(Text.lines source.toList).map readingOf, ?_, parse_image source, parse_skipEvents source⟩
  intro rs
  rw [← Text.lines_eq_pieces]
  exact forall₂_reads_iff

/-- Lines that carry nothing are counted, and nine digits are too large before the tenth is seen. -/
example : (parse "+1 # one\r\n\n1111111112\n++1").skipped =
    [⟨3, "1111111112", .tooLarge⟩, ⟨4, "++1", .invalidDigit⟩] := by
  decide +kernel

end Program

end Ls8
