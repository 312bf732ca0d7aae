/-!
# Numerals

Numbers written in a base with a least number of digits: `0x0f`, `F4`, `0b00000001`. A number that
needs more digits than asked for gets them; it is never cut.

* `le_length_digits` — a numeral has at least the asked number of digits.
* `digits_two` — a number below the square of the base has exactly its high and its low digit.
* `mem_digits` — a numeral has the digits of its base and no other characters.
-/

namespace Ls8.Numeral

/-- The digits of `n` in base `base`, most significant first, with zeros in front up to `width`. -/
def digits (base width n : Nat) : List Char :=
  (Nat.toDigits base n).leftpad width '0'

/-- Lower-case hexadecimal digits. -/
def hex (width n : Nat) : String := String.ofList (digits 16 width n)

/-- Upper-case hexadecimal digits. -/
def upperHex (width n : Nat) : String := String.ofList ((digits 16 width n).map Char.toUpper)

/-- Binary digits. -/
def binary (width n : Nat) : String := String.ofList (digits 2 width n)

/-- A numeral never has fewer digits than asked for. -/
theorem le_length_digits (base width n : Nat) : width ≤ (digits base width n).length := by
  simp [digits, List.leftpad]
  omega

/-- A number below the square of the base is written as its high and its low digit. -/
theorem digits_two {base n : Nat} (hb : 1 < base) (hn : n < base * base) :
    digits base 2 n = [(n / base).digitChar, (n % base).digitChar] := by
  by_cases h : n < base
  · simp [digits, Nat.toDigits_of_lt_base h, List.leftpad, Nat.div_eq_of_lt h,
      Nat.mod_eq_of_lt h, Nat.digitChar]
  · have hdiv : n / base < base := Nat.div_lt_of_lt_mul hn
    simp [digits, Nat.toDigits_of_base_le hb (Nat.le_of_not_lt h), Nat.toDigits_of_lt_base hdiv,
      List.leftpad]

theorem mem_toDigits {base n : Nat} {c : Char} (hb : 1 < base) (h : c ∈ Nat.toDigits base n) :
    ∃ d < base, c = d.digitChar := by
  -- the digits of what is left without the last one, and the last one
  induction n using Nat.strongRecOn with
  | ind n ih =>
    rw [Nat.toDigits_eq_if hb] at h
    split at h
    next hlt => exact ⟨n, hlt, List.mem_singleton.1 h⟩
    next hge =>
      rcases List.mem_append.1 h with hhigh | hlow
      · exact ih (n / base) (Nat.div_lt_self (by omega) hb) hhigh
      · exact ⟨n % base, Nat.mod_lt n (by omega), List.mem_singleton.1 hlow⟩

/-- Every character of a numeral is a digit. -/
theorem mem_digits {base width n : Nat} {c : Char} (hb : 1 < base) (h : c ∈ digits base width n) :
    ∃ d < base, c = d.digitChar := by
  rcases List.mem_append.1 h with hzero | hdigit
  · exact ⟨0, Nat.zero_lt_of_lt hb, List.eq_of_mem_replicate hzero⟩
  · exact mem_toDigits hb hdigit

end Ls8.Numeral
