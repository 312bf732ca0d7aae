import Mathlib.Data.List.Basic
import Mathlib.Data.List.Induction
import Mathlib.Data.List.TakeWhile
import Ls8.Proofs.Json.Reading
import Ls8.Text.Numeral

/-!
# Reading integers

A number that is read as a natural number is its numeral, and nothing else is: digits without a zero
in front, and neither a sign, nor a point, nor a power of ten. The digits of a numeral and the value
of digits are inverse to one another; both are built from the front, one digit at a time, so the
inductions go from the back.

Main results:

* `numeral_valueFrom`, `valueFrom_numeral` — digits and their value.
* `exists_numeral_of_readNumber`, `readNumber_numeral` — what is read as a natural number.
* `neg_of_readNumber` — with a sign no natural number is read.
-/

namespace Ls8.Json

variable {b : UInt8} {n k : Nat} {bytes rest r digits : Bytes}

/-! ## Digits -/

theorem digitValue_digit (hn : n < 10) : digitValue (digit n) = n := by
  revert n
  decide

theorem isDigit_iff : isDigit b = true ↔ ∃ n < 10, b = digit n := by
  constructor
  · intro h
    simp only [isDigit, Bool.and_eq_true, decide_eq_true_eq, UInt8.le_iff_toNat_le] at h
    have hall : ∀ n < 10, UInt8.ofNat (48 + n) = digit n := by decide
    have h48 : (ascii '0').toNat = 48 := rfl
    have h57 : (ascii '9').toNat = 57 := rfl
    refine ⟨b.toNat - 48, by omega, ?_⟩
    rw [← hall (b.toNat - 48) (by omega), Nat.add_sub_cancel' (by omega), UInt8.ofNat_toNat]
  · rintro ⟨n, hn, rfl⟩
    revert n
    decide

theorem digit_eq_zero_iff (hn : n < 10) : digit n = ascii '0' ↔ n = 0 := by
  revert n
  decide

/-! ## Numerals -/

/-- A decimal digit is one byte in UTF-8. -/
theorem utf8EncodeChar_of_mem {c : Char} (h : c ∈ Nat.toDigits 10 n) :
    String.utf8EncodeChar c = [ascii c] := by
  have hall : ∀ d < 10, String.utf8EncodeChar d.digitChar = [ascii d.digitChar] := by decide
  obtain ⟨d, hd, rfl⟩ := Numeral.mem_toDigits (by decide) h
  exact hall d hd

theorem numeral_eq (n : Nat) : numeral n = (Nat.toDigits 10 n).map ascii := by
  show (String.ofList (Nat.toDigits 10 n)).toList.flatMap String.utf8EncodeChar = _
  rw [String.toList_ofList, List.map_eq_flatMap]
  exact List.flatMap_congr fun c hc => utf8EncodeChar_of_mem hc

theorem numeral_of_lt (hn : n < 10) : numeral n = [digit n] := by
  rw [numeral_eq, Nat.toDigits_of_lt_base hn]
  rfl

theorem numeral_ten_mul_add {d : Nat} (hn : 0 < n) (hd : d < 10) :
    numeral (10 * n + d) = numeral n ++ [digit d] := by
  have hlast := Nat.toDigits_append_toDigits (b := 10) (by decide) hn hd
  rw [Nat.toDigits_of_lt_base hd] at hlast
  rw [numeral_eq, ← hlast, List.map_append, ← numeral_eq]
  rfl

/-- Numerals are made from the front, one digit at a time. -/
theorem numeral_induction {motive : Nat → Bytes → Prop}
    (one : ∀ d < 10, motive d [digit d])
    (more : ∀ n d, 0 < n → d < 10 → motive n (numeral n) →
      motive (10 * n + d) (numeral n ++ [digit d]))
    (n : Nat) : motive n (numeral n) := by
  induction n using Nat.strongRecOn with
  | ind n ih =>
    rcases Nat.lt_or_ge n 10 with hlt | hge
    · rw [numeral_of_lt hlt]
      exact one n hlt
    · have hpos : 0 < n / 10 := by omega
      have hlast : n % 10 < 10 := Nat.mod_lt n (by decide)
      have hstep := more (n / 10) (n % 10) hpos hlast (ih (n / 10) (by omega))
      rwa [← numeral_ten_mul_add hpos hlast, Nat.div_add_mod] at hstep

theorem digits_numeral (n : Nat) : Digits (numeral n) := by
  refine numeral_induction (motive := fun _ t => Digits t) ?_ ?_ n
  · intro d hd
    refine ⟨List.cons_ne_nil _ _, ?_⟩
    intro b hb
    exact ⟨d, hd, List.mem_singleton.1 hb⟩
  · intro n d _ hd ih
    refine ⟨by simp, ?_⟩
    intro b hb
    rcases List.mem_append.1 hb with hfront | hlast
    · exact ih.2 b hfront
    · exact ⟨d, hd, List.mem_singleton.1 hlast⟩

theorem exists_numeral_eq_cons (n : Nat) : ∃ d < 10, ∃ r, numeral n = digit d :: r := by
  obtain ⟨hne, hdigits⟩ := digits_numeral n
  obtain ⟨b, r, hcons⟩ := List.exists_cons_of_ne_nil hne
  obtain ⟨d, hd, rfl⟩ := hdigits b (hcons ▸ List.mem_cons_self)
  exact ⟨d, hd, r, hcons⟩

/-- A numeral begins with a zero only if it is one. -/
theorem head?_numeral_eq_zero (h : (numeral n).head? = some (ascii '0')) : n = 0 := by
  revert h
  refine numeral_induction (motive := fun n t => t.head? = some (ascii '0') → n = 0) ?_ ?_ n
  · intro d hd h
    exact (digit_eq_zero_iff hd).1 (Option.some.inj h)
  · intro n d hn _ ih h
    -- the first digit is that of the front
    obtain ⟨_, -, r, hcons⟩ := exists_numeral_eq_cons n
    rw [hcons] at h ih
    exact absurd (ih h) (Nat.pos_iff_ne_zero.1 hn)

/-! ## The value of digits -/

/-- The value of digits behind those whose value is `acc`. -/
def valueFrom (acc : Nat) (digits : Bytes) : Nat :=
  digits.foldl (fun n b => 10 * n + digitValue b) acc

theorem le_valueFrom (acc : Nat) (digits : Bytes) : acc ≤ valueFrom acc digits := by
  induction digits generalizing acc with
  | nil => exact Nat.le_refl acc
  | cons b digits ih =>
    have := ih (10 * acc + digitValue b)
    simp only [valueFrom, List.foldl_cons] at this ⊢
    omega

theorem valueFrom_append_singleton (acc : Nat) (digits : Bytes) (b : UInt8) :
    valueFrom acc (digits ++ [b]) = 10 * valueFrom acc digits + digitValue b := by
  simp only [valueFrom, List.foldl_append, List.foldl_cons, List.foldl_nil]

theorem valueFrom_numeral (n : Nat) : valueFrom 0 (numeral n) = n := by
  refine numeral_induction (motive := fun n t => valueFrom 0 t = n) ?_ ?_ n
  · intro d hd
    simp only [valueFrom, List.foldl_cons, List.foldl_nil, Nat.mul_zero, Nat.zero_add,
      digitValue_digit hd]
  · intro n d _ hd ih
    rw [valueFrom_append_singleton, ih, digitValue_digit hd]

/-- Digits without a zero in front are the numeral of their value. -/
theorem numeral_valueFrom (h : Digits digits) (hzero : digits.head? ≠ some (ascii '0')) :
    numeral (valueFrom 0 digits) = digits := by
  induction digits using List.reverseRecOn with
  | nil => exact absurd rfl h.1
  | append_singleton front b ih =>
    obtain ⟨d, hd, rfl⟩ := h.2 b (by simp)
    rw [valueFrom_append_singleton, digitValue_digit hd]
    cases front with
    | nil =>
      rw [valueFrom, List.foldl_nil, Nat.mul_zero, Nat.zero_add]
      exact numeral_of_lt hd
    | cons c front =>
      have hfront : Digits (c :: front) :=
        ⟨List.cons_ne_nil c front, fun b hb => h.2 b (List.mem_append_left _ hb)⟩
      have hnumeral := ih hfront hzero
      -- the front has a value, for it does not begin with a zero
      have hpos : 0 < valueFrom 0 (c :: front) := by
        refine Nat.pos_of_ne_zero fun h0 => ?_
        rw [h0, numeral_of_lt (by decide)] at hnumeral
        exact hzero (hnumeral ▸ rfl)
      rw [numeral_ten_mul_add hpos hd, hnumeral]

/-- Digits are gathered up to the end if their value is within the limit. -/
theorem gather_eq_iff {limit acc value : Nat} (hacc : acc ≤ limit) :
    gather limit acc digits = (value, []) ↔ valueFrom acc digits = value ∧ value ≤ limit := by
  induction digits generalizing acc with
  | nil =>
    simp only [gather, valueFrom, List.foldl_nil, Prod.mk.injEq, and_true]
    constructor
    · rintro rfl
      exact ⟨rfl, hacc⟩
    · exact fun h => h.1
  | cons b digits ih =>
    simp only [gather]
    split
    next hle => exact ih hle
    next hgt =>
      -- what passes the limit once stays past it
      have := le_valueFrom (10 * acc + digitValue b) digits
      simp only [Prod.mk.injEq, reduceCtorEq, and_false, valueFrom, List.foldl_cons, false_iff,
        not_and] at this ⊢
      omega

/-! ## Numbers -/

/-- Where a point or a power of ten is read the number is a double. -/
theorem readDouble_ne_integer {negative : Bool} {significand : Nat} {power : Int} {i : Int} :
    readDouble negative significand power bytes ≠ .ok (.integer i, rest) := by
  intro h
  unfold readDouble at h
  split at h <;> cases h

theorem readPowerDigits_ne_integer {negative powerNegative : Bool} {significand : Nat}
    {power i : Int} :
    readPowerDigits negative significand power powerNegative bytes ≠ .ok (.integer i, rest) := by
  intro h
  simp only [readPowerDigits] at h
  split at h
  · exact readDouble_ne_integer h
  · split at h <;> cases h

theorem readPower_ne_integer {negative : Bool} {significand : Nat} {power i : Int} :
    readPower negative significand power bytes ≠ .ok (.integer i, rest) := by
  intro h
  simp only [readPower] at h
  split at h
  · cases h
  · split at h
    · exact readPowerDigits_ne_integer h
    · cases h

theorem readFraction_ne_integer {negative : Bool} {significand : Nat} {power i : Int} :
    readFraction negative significand power bytes ≠ .ok (.integer i, rest) := by
  intro h
  simp only [readFraction] at h
  split at h
  · cases h
  · split at h
    · exact readPower_ne_integer h
    · exact readDouble_ne_integer h

/-- An integer ends with the digits that were read, and all of them were gathered. -/
theorem eq_of_readTail {negative : Bool} {significand power : Nat} {i : Int}
    (h : readTail negative significand power bytes = .ok (.integer i, rest)) :
    rest = bytes ∧ power = 0 ∧ if negative then i < 0 else i = significand := by
  unfold readTail at h
  split at h
  · exact absurd h readFraction_ne_integer
  split at h
  · exact absurd h readPower_ne_integer
  split at h
  · exact absurd h readDouble_ne_integer
  next hpower =>
    have hzero : power = 0 := Decidable.not_not.1 hpower
    split at h
    next hsign =>
      cases h
      have hpos : negative = false := by simpa using hsign
      exact ⟨rfl, hzero, by rw [hpos]; rfl⟩
    next hsign =>
      -- with a sign it is an integer only if it is not zero
      split at h
      · next hsmall =>
        cases h
        have hneg : negative = true := by simpa using hsign
        refine ⟨rfl, hzero, ?_⟩
        rw [hneg, if_pos rfl]
        omega
      · exact absurd h readDouble_ne_integer

theorem readTail_of_ends (hends : Ends bytes) (significand : Nat) :
    readTail false significand 0 bytes = .ok (.integer significand, bytes) := by
  have hnot : ∀ b ∈ utf8 ".eE", (bytes.head? == some b) = false := by
    intro b hb
    refine beq_eq_false_iff_ne.2 fun h => hends b h ?_
    have hall : ∀ b ∈ utf8 ".eE", b ∈ utf8 "0123456789.eE" := by decide +kernel
    exact hall b hb
  have hpoint := hnot (ascii '.') (by decide)
  have hpower : startsPower bytes = false := by
    rw [startsPower, hnot (ascii 'e') (by decide), hnot (ascii 'E') (by decide)]
    rfl
  simp [readTail, hpoint, hpower]

/-- No digit follows where a number ends. -/
theorem isDigit_eq_false_of_ends (hends : Ends (b :: rest)) : isDigit b = false := by
  have hall : ∀ n < 10, digit n ∈ utf8 "0123456789.eE" := by decide +kernel
  refine eq_false_of_ne_true fun hb => ?_
  obtain ⟨n, hn, rfl⟩ := isDigit_iff.1 hb
  exact hends _ rfl (hall n hn)

theorem startsWithDigit_of_ends (hends : Ends bytes) : startsWithDigit bytes = false := by
  cases bytes with
  | nil => rfl
  | cons b rest => exact isDigit_eq_false_of_ends hends

/-- The digits in front are those of the numeral, and what is left is what follows it. -/
theorem span_numeral (n : Nat) (hends : Ends rest) :
    (numeral n ++ rest).takeWhile isDigit = numeral n ∧
      (numeral n ++ rest).dropWhile isDigit = rest := by
  have hall : ∀ b ∈ numeral n, isDigit b = true :=
    fun b hb => isDigit_iff.2 ((digits_numeral n).2 b hb)
  rw [List.takeWhile_append_of_pos hall, List.dropWhile_append_of_pos hall]
  cases rest with
  | nil => exact ⟨List.append_nil _, rfl⟩
  | cons b rest =>
    have hb := isDigit_eq_false_of_ends hends
    rw [List.takeWhile_cons, List.dropWhile_cons, hb]
    exact ⟨List.append_nil _, rfl⟩

theorem digits_takeWhile_isDigit (hb : isDigit b = true) (rest : Bytes) :
    Digits ((b :: rest).takeWhile isDigit) := by
  refine ⟨?_, fun c hc => isDigit_iff.1 (List.mem_takeWhile_imp hc)⟩
  rw [List.takeWhile_cons_of_pos hb]
  exact List.cons_ne_nil _ _

/-- Without a sign the digits of an integer are a numeral. -/
theorem exists_numeral_of_readNumber {i : Int}
    (h : readNumber false bytes = .ok (.integer i, rest)) :
    ∃ n : Nat, i = n ∧ bytes = numeral n ++ rest := by
  unfold readNumber at h
  split at h
  · cases h
  next b r =>
    split at h
    · next hzero =>
      -- a zero is all there is of its number
      split at h
      · cases h
      · obtain ⟨rfl, -, hi⟩ := eq_of_readTail h
        exact ⟨0, hi, by rw [hzero]; rfl⟩
    · next hzero =>
      split at h
      · next hdigit =>
        obtain ⟨rfl, hleft, hi⟩ := eq_of_readTail h
        -- nothing was left, so the digits have the value that was gathered
        generalize hgather : gather greatestSignificand 0 ((b :: r).takeWhile isDigit) = g at h hleft hi
        obtain ⟨value, left⟩ := g
        obtain rfl := List.length_eq_zero_iff.1 hleft
        obtain ⟨hvalue, -⟩ := (gather_eq_iff (Nat.zero_le _)).1 hgather
        have hnumeral := numeral_valueFrom (digits_takeWhile_isDigit hdigit r) <| by
          rw [List.takeWhile_cons_of_pos hdigit]
          exact fun h => hzero (Option.some.inj h)
        rw [hvalue] at hnumeral
        refine ⟨value, hi, ?_⟩
        rw [hnumeral, List.takeWhile_append_dropWhile]
      · cases h

theorem neg_of_readNumber {i : Int} (h : readNumber true bytes = .ok (.integer i, rest)) : i < 0 := by
  unfold readNumber at h
  split at h
  · cases h
  · split at h
    · split at h
      · cases h
      · simpa using (eq_of_readTail h).2.2
    · split at h
      · simpa using (eq_of_readTail h).2.2
      · cases h

/-- A numeral is read as its number if it fits into 64 bits and ends there. -/
theorem readNumber_numeral (hn : n ≤ greatestSignificand) (hends : Ends rest) :
    readNumber false (numeral n ++ rest) = .ok (.integer n, rest) := by
  rcases Nat.eq_zero_or_pos n with rfl | hpos
  · have hzero : digit 0 = ascii '0' := rfl
    rw [numeral_of_lt (by decide), List.singleton_append, readNumber, if_pos hzero,
      startsWithDigit_of_ends hends]
    exact readTail_of_ends hends 0
  · obtain ⟨d, hd, r, hcons⟩ := exists_numeral_eq_cons n
    have hzero : digit d ≠ ascii '0' := by
      intro hzero
      have hhead : (numeral n).head? = some (ascii '0') := by
        rw [hcons, hzero]
        rfl
      exact absurd (head?_numeral_eq_zero hhead) (Nat.pos_iff_ne_zero.1 hpos)
    -- the digits are those of the numeral, and all of them are gathered
    obtain ⟨htake, hdrop⟩ := span_numeral n hends
    have hgather : gather greatestSignificand 0 (numeral n) = (n, []) :=
      (gather_eq_iff (Nat.zero_le _)).2 ⟨valueFrom_numeral n, hn⟩
    rw [hcons, List.cons_append] at htake hdrop ⊢
    rw [readNumber, if_neg hzero, if_pos (isDigit_iff.2 ⟨d, hd, rfl⟩), htake, hdrop, ← hcons]
    dsimp only
    rw [hgather]
    exact readTail_of_ends hends n

end Ls8.Json
