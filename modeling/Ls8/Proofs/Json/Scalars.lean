import Ls8.Proofs.Json.Numbers
import Ls8.Proofs.Json.Strings

/-!
# Reading single values

A boolean is read from `true` and `false`, and a byte from the numerals up to 255. A value of another
kind is refused, whatever it is.

Main results:

* `reads_boolean`, `reads_byte` — the readers of booleans and bytes.
* `refuse_ne_ok` — a refused value is not read.
* `Writes.exists_cons` — a value begins with a byte that is neither space nor the end of a list.
-/

namespace Ls8.Json

variable {α : Type} {bytes rest : Bytes}

/-- The value of a boolean. -/
def IsBoolean (v : Value) (b : Bool) : Prop := v = .boolean b

/-- The value of a byte: a numeral up to 255. -/
def IsByte (v : Value) (b : UInt8) : Prop := v = .number (numeral b.toNat)

/-! ## How values begin -/

/-- A value begins with a byte that is neither space nor the end of a list. -/
theorem Writes.exists_cons {v : Value} (h : Writes v bytes rest) :
    ∃ b r, bytes = b :: r ∧ b ∉ spaces ∧ b ≠ ascii ']' := by
  cases h with
  | null => exact ⟨ascii 'n', _, rfl, by decide, by decide⟩
  | boolean b =>
    cases b with
    | true => exact ⟨ascii 't', _, rfl, by decide, by decide⟩
    | false => exact ⟨ascii 'f', _, rfl, by decide, by decide⟩
  | number _ h =>
    obtain ⟨sign, n, fraction, power, hsign, -, -, rfl⟩ := h
    simp only [List.mem_cons, List.not_mem_nil, or_false] at hsign
    rcases hsign with rfl | rfl
    · -- without a sign the first byte is a digit
      obtain ⟨d, hd, r, hcons⟩ := exists_numeral_eq_cons n
      have hall : ∀ d < 10, digit d ∉ spaces ∧ digit d ≠ ascii ']' := by decide
      rw [hcons]
      exact ⟨digit d, _, rfl, hall d hd⟩
    · exact ⟨ascii '-', _, rfl, by decide, by decide⟩
  | string => exact ⟨_, _, rfl, by decide, by decide⟩
  | list => exact ⟨_, _, rfl, by decide, by decide⟩
  | object => exact ⟨_, _, rfl, by decide, by decide⟩

/-! ## Values that are refused -/

theorem refuse_ne_ok {expected : String} {x : α × Bytes} :
    refuse expected bytes ≠ .ok x := by
  intro h
  obtain ⟨_, -, h'⟩ := bind_eq_ok_iff.1 h
  cases h'

/-! ## Words -/

theorem readWord_eq_ok_iff {word : Bytes} :
    readWord word bytes = .ok ((), rest) ↔ bytes = word ++ rest := by
  induction word generalizing bytes with
  | nil => simp [readWord]
  | cons w word ih =>
    cases bytes with
    | nil => simp [readWord, failHere]
    | cons b bytes =>
      by_cases hb : b = w
      · simp [readWord, hb, ih]
      · simp [readWord, hb, failHere]

/-- A value that is written as a word. -/
theorem readWord_map_eq_ok_iff {word : Bytes} {a b : α} :
    (readWord word bytes).map (fun r => (a, r.2)) = .ok (b, rest) ↔ a = b ∧ bytes = word ++ rest := by
  rw [map_eq_ok_iff]
  constructor
  · rintro ⟨⟨⟨⟩, r⟩, hword, heq⟩
    cases heq
    exact ⟨rfl, readWord_eq_ok_iff.1 hword⟩
  · rintro ⟨rfl, hbytes⟩
    exact ⟨((), rest), readWord_eq_ok_iff.2 hbytes, rfl⟩

theorem reads_boolean : Reads readBoolean IsBoolean where
  sound := by
    intro bytes rest b h
    have hspace := space_skipSpace bytes
    unfold readBoolean at h
    split at h
    · cases h
    next c r hr =>
      rw [hr] at hspace
      split at h
      · next hc =>
        obtain ⟨rfl, rfl⟩ := readWord_map_eq_ok_iff.1 h
        rw [hc] at hspace
        exact ⟨.boolean true, _, hspace, .boolean true _, rfl⟩
      split at h
      · next hc =>
        obtain ⟨rfl, rfl⟩ := readWord_map_eq_ok_iff.1 h
        rw [hc] at hspace
        exact ⟨.boolean false, _, hspace, .boolean false _, rfl⟩
      · exact absurd h refuse_ne_ok
  complete := by
    rintro bytes start rest _ b hspace hwrites rfl -
    cases hwrites
    unfold readBoolean
    cases b with
    | true =>
      have hskip : skipSpace bytes = ascii 't' :: (utf8 "rue" ++ rest) :=
        (skipSpace_eq_cons_iff (by decide)).2 hspace
      rw [hskip]
      dsimp only
      rw [if_pos rfl]
      exact readWord_map_eq_ok_iff.2 ⟨rfl, rfl⟩
    | false =>
      have hskip : skipSpace bytes = ascii 'f' :: (utf8 "alse" ++ rest) :=
        (skipSpace_eq_cons_iff (by decide)).2 hspace
      rw [hskip]
      dsimp only
      rw [if_neg (by decide), if_pos rfl]
      exact readWord_map_eq_ok_iff.2 ⟨rfl, rfl⟩

/-! ## Bytes -/

theorem byteOfNumber_eq_ok_iff {x : Number} {b : UInt8} {r : Bytes} :
    byteOfNumber x r = .ok (b, rest) ↔ x = .integer b.toNat ∧ r = rest := by
  cases x with
  | double x => simp [byteOfNumber, failHere]
  | integer i =>
    have hlt := UInt8.toNat_lt b
    simp only [byteOfNumber, failHere]
    split
    next hi =>
      simp only [Except.ok.injEq, Prod.mk.injEq, Number.integer.injEq]
      refine and_congr_left fun _ => ⟨?_, ?_⟩
      · rintro rfl
        rw [UInt8.toNat_ofNat']
        omega
      · rintro rfl
        rw [Int.toNat_natCast, UInt8.ofNat_toNat]
    next hi =>
      simp only [reduceCtorEq, Number.integer.injEq, false_iff, not_and]
      omega

theorem isNumber_numeral (n : Nat) : IsNumber (numeral n) :=
  ⟨[], n, [], [], by simp, .none, .none, by simp⟩

theorem reads_byte : Reads readByte IsByte where
  sound := by
    intro bytes rest b h
    have hspace := space_skipSpace bytes
    unfold readByte at h
    split at h
    · cases h
    next c r hr =>
      rw [hr] at hspace
      split at h
      · -- with a sign an integer is negative, so it is no byte
        obtain ⟨⟨x, r'⟩, hnumber, hbyte⟩ := bind_eq_ok_iff.1 h
        obtain ⟨rfl, rfl⟩ := byteOfNumber_eq_ok_iff.1 hbyte
        have := neg_of_readNumber hnumber
        omega
      split at h
      · obtain ⟨⟨x, r'⟩, hnumber, hbyte⟩ := bind_eq_ok_iff.1 h
        obtain ⟨rfl, rfl⟩ := byteOfNumber_eq_ok_iff.1 hbyte
        obtain ⟨n, hn, htext⟩ := exists_numeral_of_readNumber hnumber
        rw [htext, ← Int.ofNat_inj.1 hn] at hspace
        exact ⟨_, _, hspace, .number _ (isNumber_numeral _), rfl⟩
      · exact absurd h refuse_ne_ok
  complete := by
    rintro bytes start rest _ b hspace hwrites rfl hends
    cases hwrites
    have hnumber : readNumber false (numeral b.toNat ++ rest) = .ok (.integer b.toNat, rest) := by
      have hlt := UInt8.toNat_lt b
      refine readNumber_numeral ?_ hends
      unfold greatestSignificand
      omega
    -- the first digit decides how the value is read
    obtain ⟨d, hd, r, hcons⟩ := exists_numeral_eq_cons b.toNat
    have hall : ∀ d < 10, digit d ∉ spaces ∧ digit d ≠ ascii '-' := by decide
    rw [hcons, List.cons_append] at hspace hnumber
    unfold readByte
    rw [(skipSpace_eq_cons_iff (hall d hd).1).2 hspace]
    dsimp only
    rw [if_neg (hall d hd).2, if_pos (isDigit_iff.2 ⟨d, hd, rfl⟩)]
    exact bind_eq_ok_iff.2 ⟨_, hnumber, byteOfNumber_eq_ok_iff.2 ⟨rfl, rfl⟩⟩

end Ls8.Json
