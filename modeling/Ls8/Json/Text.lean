import Ls8.Json.Failure

/-!
# Strings

Reading a string behind its opening quote. A character is written as itself or by an escape; a
character past 16 bits is escaped as a pair of halves, the high one first, and no half stands alone.

* `readEscape_length` — an escape leaves fewer bytes than there were, so the reading of a string ends.
-/

namespace Ls8.Json

/-! ## Escapes -/

/-- The value of a hexadecimal digit. -/
def hexValue? (b : UInt8) : Option Nat :=
  if ascii '0' ≤ b ∧ b ≤ ascii '9' then some (b.toNat - 48)
  else if ascii 'a' ≤ b ∧ b ≤ ascii 'f' then some (b.toNat - 87)
  else if ascii 'A' ≤ b ∧ b ≤ ascii 'F' then some (b.toNat - 55)
  else none

/-- The value of four hexadecimal digits. -/
def hexValues? (a b c d : UInt8) : Option Nat := do
  return (← hexValue? a) * 4096 + (← hexValue? b) * 256 + (← hexValue? c) * 16 + (← hexValue? d)

/-- Reads four hexadecimal digits. -/
def readHex : Reader Nat
  | a :: b :: c :: d :: rest =>
    match hexValues? a b c d with
    | some n => .ok (n, rest)
    | none => failHere .invalidEscape rest
  | _ => failHere (.endOfInput .string) []

/-- Whether a 16-bit value is the first half of a pair. -/
def isHighHalf (n : Nat) : Bool := 0xD800 ≤ n && n ≤ 0xDBFF

/-- Whether a 16-bit value is the second half of a pair. -/
def isLowHalf (n : Nat) : Bool := 0xDC00 ≤ n && n ≤ 0xDFFF

/-- The character of a pair of halves. -/
def joinHalves (high low : Nat) : Char :=
  Char.ofNat (0x10000 + (high - 0xD800) * 0x400 + (low - 0xDC00))

/-- Takes the byte that must come next inside an escape. -/
def expectInEscape (c : Char) : Reader Unit
  | [] => failHere (.endOfInput .string) []
  | b :: rest =>
    if b = ascii c then .ok ((), rest) else failHere .unexpectedEndOfEscape rest

/-- Reads the number of a character behind `\u`. -/
def readCodePoint : Reader Char := fun bytes => do
  let (high, rest) ← readHex bytes
  if isLowHalf high then failHere .loneSurrogate rest
  else if isHighHalf high then
    let (_, rest) ← expectInEscape '\\' rest
    let (_, rest) ← expectInEscape 'u' rest
    let (low, rest) ← readHex rest
    if isLowHalf low then return (joinHalves high low, rest)
    else failHere .loneSurrogate rest
  else return (Char.ofNat high, rest)

/-- The character that a letter behind a backslash stands for. -/
def escapedChar? (b : UInt8) : Option Char :=
  match Char.ofUInt8 b with
  | '"' => some '"'
  | '\\' => some '\\'
  | '/' => some '/'
  | 'b' => some '\x08'
  | 'f' => some '\x0c'
  | 'n' => some '\n'
  | 'r' => some '\r'
  | 't' => some '\t'
  | _ => none

/-- Reads an escape behind its backslash. -/
def readEscape : Reader Char
  | [] => failHere (.endOfInput .string) []
  | b :: rest =>
    if b = ascii 'u' then readCodePoint rest
    else
      match escapedChar? b with
      | some c => .ok (c, rest)
      | none => failHere .invalidEscape rest

theorem readHex_length {bytes rest : Bytes} {n : Nat} (h : readHex bytes = .ok (n, rest)) :
    rest.length < bytes.length := by
  unfold readHex at h
  split at h
  · split at h
    · cases h
      simp only [List.length_cons]
      omega
    · cases h
  · cases h

theorem expectInEscape_length {c : Char} {bytes rest : Bytes} {u : Unit}
    (h : expectInEscape c bytes = .ok (u, rest)) : rest.length < bytes.length := by
  unfold expectInEscape at h
  split at h
  · cases h
  · split at h
    · cases h
      exact Nat.lt_succ_self _
    · cases h

theorem readCodePoint_length {bytes rest : Bytes} {c : Char}
    (h : readCodePoint bytes = .ok (c, rest)) : rest.length < bytes.length := by
  simp only [readCodePoint, bind, Except.bind, pure, Except.pure, failHere] at h
  split at h
  · cases h
  next _ _ hhigh =>
    have h₁ := readHex_length hhigh
    split at h
    · cases h
    split at h
    · split at h
      · cases h
      next _ _ hslash =>
        have h₂ := expectInEscape_length hslash
        split at h
        · cases h
        next _ _ hu =>
          have h₃ := expectInEscape_length hu
          split at h
          · cases h
          next _ _ hlow =>
            have h₄ := readHex_length hlow
            split at h
            · obtain ⟨-, rfl⟩ := Prod.mk.inj (Except.ok.inj h)
              omega
            · cases h
    · obtain ⟨-, rfl⟩ := Prod.mk.inj (Except.ok.inj h)
      exact h₁

/-- An escape takes at least one byte. -/
theorem readEscape_length {bytes rest : Bytes} {c : Char} (h : readEscape bytes = .ok (c, rest)) :
    rest.length < bytes.length := by
  unfold readEscape at h
  split at h
  · cases h
  · split at h
    · exact Nat.lt_succ_of_lt (readCodePoint_length h)
    · split at h
      · cases h
        exact Nat.lt_succ_self _
      · cases h

/-! ## Strings -/

/-- Bytes below this one are control characters and stand in no string. -/
def firstPrintable : UInt8 := 0x20

/-- Puts bytes in front of a string that was read. -/
def prepend (piece : Bytes) (r : Bytes × Bytes) : Bytes × Bytes := (piece ++ r.1, r.2)

/-- Reads the content of a string, in UTF-8, up to the closing quote. -/
def readString (bytes : Bytes) : Except Failure (Bytes × Bytes) :=
  match bytes with
  | [] => failHere (.endOfInput .string) []
  | b :: rest =>
    if b = ascii '"' then .ok ([], rest)
    else if b = ascii '\\' then
      match _h : readEscape rest with
      | .error f => .error f
      | .ok (c, rest') => (readString rest').map (prepend (String.utf8EncodeChar c))
    else if b < firstPrintable then failHere .controlCharacter rest
    else (readString rest).map (prepend [b])
termination_by bytes.length
decreasing_by
  · have := readEscape_length _h
    simp only [List.length_cons]
    omega
  · exact Nat.lt_succ_self _

end Ls8.Json
