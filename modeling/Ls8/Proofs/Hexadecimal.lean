import Ls8.Text.Numeral

/-!
# Upper-case hexadecimal numerals

A numeral is written with sixteen digits, and its value can be read off it again, whatever zeros stand
in front. So two numbers written with the same least width are written alike only if they are equal,
also where one of them has more digits than that.

Main results:

* `mem_upperHex` — a numeral has no other characters than the sixteen digits.
* `toList_upperHex_two` — a number below 256 has exactly two digits.
* `hexValue_upperHex`, `upperHex_inj` — the value of a numeral is the number.
-/

namespace Ls8.Numeral

/-! ## Digits -/

/-- The sixteen digits, each at its value. -/
def hexAlphabet : List Char :=
  ['0', '1', '2', '3', '4', '5', '6', '7', '8', '9', 'A', 'B', 'C', 'D', 'E', 'F']

/-- The digit of a value below sixteen. -/
def hexDigit (d : Nat) : Char := hexAlphabet.getD d '0'

/-- The two digits of a byte, the high one first. -/
def hexPair (b : UInt8) : List Char := [hexDigit (b.toNat / 16), hexDigit (b.toNat % 16)]

theorem toUpper_digitChar {d : Nat} (h : d < 16) : d.digitChar.toUpper = hexDigit d := by
  have hall : ∀ d < 16, d.digitChar.toUpper = hexDigit d := by decide
  exact hall d h

theorem hexDigit_mem {d : Nat} (h : d < 16) : hexDigit d ∈ hexAlphabet := by
  have hall : ∀ d < 16, hexDigit d ∈ hexAlphabet := by decide
  exact hall d h

theorem mem_hexPair {b : UInt8} {c : Char} (h : c ∈ hexPair b) : c ∈ hexAlphabet := by
  have hb := b.toNat_lt
  simp only [hexPair, List.mem_cons, List.not_mem_nil, or_false] at h
  rcases h with rfl | rfl
  · exact hexDigit_mem (by omega)
  · exact hexDigit_mem (by omega)

theorem toList_upperHex (width n : Nat) :
    (upperHex width n).toList = (digits 16 width n).map Char.toUpper := String.toList_ofList

/-- Every character of a numeral is a digit. -/
theorem mem_upperHex {width n : Nat} {c : Char} (h : c ∈ (upperHex width n).toList) :
    c ∈ hexAlphabet := by
  rw [toList_upperHex, List.mem_map] at h
  obtain ⟨e, he, rfl⟩ := h
  obtain ⟨d, hd, rfl⟩ := mem_digits (by decide) he
  rw [toUpper_digitChar hd]
  exact hexDigit_mem hd

/-- A number below 256 has two digits. -/
theorem toList_upperHex_two {n : Nat} (h : n < 256) :
    (upperHex 2 n).toList = [hexDigit (n / 16), hexDigit (n % 16)] := by
  rw [toList_upperHex, digits_two (by decide) h, List.map_cons, List.map_singleton,
    toUpper_digitChar (by omega), toUpper_digitChar (by omega)]

/-! ## Values -/

/-- The number that digits write. -/
def hexValue (cs : List Char) : Nat := cs.foldl (fun n c => 16 * n + hexAlphabet.idxOf c) 0

theorem idxOf_hexDigit {d : Nat} (h : d < 16) : hexAlphabet.idxOf (hexDigit d) = d := by
  have hall : ∀ d < 16, hexAlphabet.idxOf (hexDigit d) = d := by decide
  exact hall d h

theorem hexValue_concat (cs : List Char) {d : Nat} (h : d < 16) :
    hexValue (cs ++ [hexDigit d]) = 16 * hexValue cs + d := by
  rw [hexValue, List.foldl_append, List.foldl_cons, List.foldl_nil, idxOf_hexDigit h]
  rfl

theorem hexValue_zeros (k : Nat) (cs : List Char) :
    hexValue (List.replicate k '0' ++ cs) = hexValue cs := by
  induction k with
  | zero => rfl
  | succ k ih => exact ih

theorem hexValue_toDigits (n : Nat) :
    hexValue ((Nat.toDigits 16 n).map Char.toUpper) = n := by
  -- on the number without its last digit
  induction n using Nat.strongRecOn with
  | ind n ih =>
    rw [Nat.toDigits_eq_if (by decide)]
    split
    next hlt =>
      rw [List.map_singleton, toUpper_digitChar hlt]
      exact (hexValue_concat [] hlt).trans (Nat.zero_add n)
    next hge =>
      have hlow : n % 16 < 16 := Nat.mod_lt n (by decide)
      rw [List.map_append, List.map_singleton, toUpper_digitChar hlow, hexValue_concat _ hlow,
        ih (n / 16) (by omega)]
      omega

theorem hexValue_upperHex (width n : Nat) : hexValue (upperHex width n).toList = n := by
  rw [toList_upperHex, digits, List.leftpad, List.map_append, List.map_replicate,
    show '0'.toUpper = '0' from rfl, hexValue_zeros, hexValue_toDigits]

theorem upperHex_inj {width m n : Nat} : upperHex width m = upperHex width n ↔ m = n := by
  refine ⟨fun h => ?_, fun h => h ▸ rfl⟩
  calc m = hexValue (upperHex width m).toList := (hexValue_upperHex width m).symm
    _ = hexValue (upperHex width n).toList := by rw [h]
    _ = n := hexValue_upperHex width n

end Ls8.Numeral
