import Ls8.Listing
import Ls8.Proofs.Hexadecimal

/-!
# The text of a listing

A line of a listing has three parts: an address, bytes in a column of eight characters, and behind the
column what is made of the bytes. There is room in the column for three bytes, and no instruction has
more. An address inside memory has two digits, so the column is at the same place in every such line,
and the bytes can be read off the text again.

Main results:

* `text_eq` — a line by its three parts.
* `hexColumn_text` — the digits in the column are those of the bytes, two to a byte.
-/

namespace Ls8

namespace Listing

open Numeral

/-! ## Bytes in a column -/

/-- The upper-case digits of bytes, two to a byte and with nothing between them. -/
def hexDigits (bytes : List UInt8) : List Char :=
  bytes.flatMap fun b => (Numeral.upperHex 2 b.toNat).toList

/-- Bytes as they stand in their column, with blanks behind them up to eight characters. -/
def column (bytes : List UInt8) : List Char := (bytesText bytes).toList.rightpad 8 ' '

/-- What is in the byte column of the text of a line, from the fifth character to the twelfth, without
its blanks. -/
def hexColumn (text : String) : List Char := ((text.toList.drop 4).take 8).filter (· ≠ ' ')

/-- No digit is a blank. -/
theorem blank_notMem_upperHex (width n : Nat) : ' ' ∉ (Numeral.upperHex width n).toList :=
  fun h => absurd (Numeral.mem_upperHex h) (by decide)

theorem hexDigits_cons (b : UInt8) (bytes : List UInt8) :
    hexDigits (b :: bytes) = (Numeral.upperHex 2 b.toNat).toList ++ hexDigits bytes :=
  List.flatMap_cons

theorem toList_bytesText (bytes : List UInt8) :
    (bytesText bytes).toList =
      [' '].intercalate (bytes.map fun b => (Numeral.upperHex 2 b.toNat).toList) := by
  rw [bytesText, String.toList_intercalate, List.map_map]
  rfl

/-- Every byte takes two digits, and there is a blank between two bytes. -/
theorem length_bytesText {bytes : List UInt8} (h : bytes ≠ []) :
    (bytesText bytes).toList.length + 1 = 3 * bytes.length := by
  rw [toList_bytesText]
  induction bytes with
  | nil => exact absurd rfl h
  | cons b bytes ih =>
    have htwo : (Numeral.upperHex 2 b.toNat).toList.length = 2 := by
      rw [toList_upperHex_two b.toNat_lt]
      rfl
    cases bytes with
    | nil => simp [htwo]
    | cons c bytes =>
      have hrest := ih (List.cons_ne_nil c bytes)
      simp only [List.map_cons, List.intercalate_cons_cons, List.length_append, htwo,
        List.length_cons, List.length_nil] at hrest ⊢
      omega

/-- Without the blanks between them the digits of the bytes are left. -/
theorem filter_bytesText (bytes : List UInt8) :
    (bytesText bytes).toList.filter (· ≠ ' ') = hexDigits bytes := by
  rw [toList_bytesText]
  induction bytes with
  | nil => rfl
  | cons b bytes ih =>
    have hdigits : (Numeral.upperHex 2 b.toNat).toList.filter (· ≠ ' ') =
        (Numeral.upperHex 2 b.toNat).toList := by
      rw [List.filter_eq_self]
      intro c hc
      rw [decide_eq_true_eq]
      rintro rfl
      exact blank_notMem_upperHex 2 b.toNat hc
    cases bytes with
    | nil => simpa [hexDigits] using hdigits
    | cons c bytes =>
      have hblank : [' '].filter (· ≠ ' ') = [] := by decide
      rw [List.map_cons] at ih
      rw [List.map_cons, List.map_cons, List.intercalate_cons_cons, List.filter_append,
        List.filter_append, hdigits, hblank, List.append_nil, ih, ← hexDigits_cons]

/-- Three bytes are the most for which there is room in the column. -/
theorem length_column {bytes : List UInt8} (hne : bytes ≠ []) (h : bytes.length ≤ 3) :
    (column bytes).length = 8 := by
  have := length_bytesText hne
  rw [column, List.length_rightpad]
  omega

theorem filter_column (bytes : List UInt8) : (column bytes).filter (· ≠ ' ') = hexDigits bytes := by
  rw [column, List.rightpad, List.filter_append, filter_bytesText]
  simp

namespace Line

/-! ## The parts of a line -/

/-- The address that a line shows. -/
def addr : Line → Nat
  | instruction addr _ => addr
  | data addr _ => addr

/-- The bytes that a line shows. -/
def bytes : Line → List UInt8
  | instruction _ inst => inst.encode
  | data _ byte => [byte]

/-- What a line makes of its bytes: the assembler text of an instruction, or a byte in binary. -/
def meaning : Line → String
  | instruction _ inst => inst.text
  | data _ byte => ".byte 0b" ++ Numeral.binary 8 byte.toNat

theorem bytes_ne_nil (line : Line) : line.bytes ≠ [] := by
  cases line with
  | instruction addr inst => exact inst.encode_ne_nil
  | data addr byte => exact List.cons_ne_nil _ _

theorem length_bytes_le (line : Line) : line.bytes.length ≤ 3 := by
  cases line with
  | instruction addr inst =>
    rw [bytes, inst.length_encode]
    exact inst.width_le_three
  | data addr byte => exact Nat.le_add_left 1 2

/-- A line is its address, its column of bytes and what is made of them. -/
theorem text_eq (line : Line) :
    line.text = Numeral.upperHex 2 line.addr ++ ": " ++ String.ofList (column line.bytes) ++ "  " ++
      line.meaning := by
  cases line with
  | instruction pc inst => rfl
  | data pc byte =>
    -- one byte leaves six blanks of the column, which stand together with the two behind it
    have hbytes : (bytesText [byte]).toList = (Numeral.upperHex 2 byte.toNat).toList := by
      rw [toList_bytesText]
      exact List.intercalate_singleton
    apply String.toList_inj.1
    simp only [text, addr, bytes, meaning, column, hbytes, toList_upperHex_two byte.toNat_lt,
      String.toList_append, String.toList_ofList]
    simp [List.rightpad]

/-- The digits in the byte column of a line inside memory are those of its bytes. -/
theorem hexColumn_text {line : Line} (h : line.addr < 256) :
    hexColumn line.text = hexDigits line.bytes := by
  have hlength := length_column line.bytes_ne_nil line.length_bytes_le
  -- two digits, a colon and a blank are in front of the column
  obtain ⟨front, hfront, hfour⟩ : ∃ front, (Numeral.upperHex 2 line.addr ++ ": ").toList = front ∧
      front.length = 4 := by
    refine ⟨_, rfl, ?_⟩
    rw [String.toList_append, toList_upperHex_two h]
    rfl
  rw [hexColumn, text_eq, String.toList_append, String.toList_append, String.toList_append, hfront,
    String.toList_ofList, List.append_assoc, List.append_assoc, List.drop_left' hfour,
    List.take_left' hlength, filter_column]

end Line

end Listing

end Ls8
