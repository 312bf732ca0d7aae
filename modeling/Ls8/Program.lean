import Ls8.Text.Blank
import Ls8.Text.Line

/-!
# Program text

A program is written as text, one binary byte a line. A `#` begins a comment; blank lines count as
lines and carry nothing. A line that is no byte is left out of the image and remembered as skipped,
with its number and the reason.

* `readDigits_eq_ok_iff` — the digits of a byte are read as their value in base two.
-/

namespace Ls8

/-- Why a text is not a byte in base two. -/
inductive ByteError where
  /-- A character that is neither `0` nor `1`, or no digit at all. -/
  | invalidDigit
  /-- Digits whose value passes 255. -/
  | tooLarge
  deriving DecidableEq

/-- The sentence that reports why a text is no byte. -/
def ByteError.message : ByteError → String
  | .invalidDigit => "invalid digit found in string"
  | .tooLarge => "number too large to fit in target type"

/-- A line of a program text that is neither blank nor a byte. -/
structure SkippedLine where
  /-- Counted from 1, blank lines included. -/
  number : Nat
  /-- The line without its comment and the blanks around the rest. -/
  content : String
  cause : ByteError
  deriving DecidableEq

/-- What a program text says: the bytes it holds, and the lines that could not be read. -/
structure Program where
  image : List UInt8
  skipped : List SkippedLine
  deriving DecidableEq

namespace Program

/-! ## Bytes -/

/-- The value of a binary digit. -/
def digitValue? : Char → Option Nat
  | '0' => some 0
  | '1' => some 1
  | _ => none

/-- Reads digits behind those whose value is `acc`; the first fault from the left counts. -/
def readDigits (acc : Nat) : List Char → Except ByteError Nat
  | [] => .ok acc
  | c :: cs =>
    match digitValue? c with
    | none => .error .invalidDigit
    | some d => if 2 * acc + d ≤ 255 then readDigits (2 * acc + d) cs else .error .tooLarge

/-- Reads a byte: one or more binary digits, with at most one plus sign before them. -/
def readByte (content : List Char) : Except ByteError UInt8 :=
  let digits := if content.head? = some '+' then content.tail else content
  if digits.isEmpty then .error .invalidDigit else (readDigits 0 digits).map UInt8.ofNat

/-! ## Lines -/

/-- What a line says once its comment and the blanks around the rest are gone. -/
def contentOf (line : List Char) : List Char := Text.trim (line.takeWhile (· ≠ '#'))

/-- The lines that say something, each with its number. -/
def contents (source : String) : List (Nat × List Char) :=
  ((Text.lines source.toList).zipIdx 1).filterMap fun (line, number) =>
    let content := contentOf line
    if content.isEmpty then none else some (number, content)

/-- Reads a program text. -/
def parse (source : String) : Program where
  image := (contents source).filterMap fun (_, content) => (readByte content).toOption
  skipped := (contents source).filterMap fun (number, content) =>
    match readByte content with
    | .ok _ => none
    | .error cause => some ⟨number, String.ofList content, cause⟩

/-! ## What the digits mean -/

/-- The value of binary digits behind those whose value is `acc`. -/
def value (acc : Nat) (cs : List Char) : Nat :=
  cs.foldl (fun n c => 2 * n + if c = '1' then 1 else 0) acc

theorem digitValue?_eq_some_iff {c : Char} {d : Nat} :
    digitValue? c = some d ↔ (c = '0' ∧ d = 0) ∨ (c = '1' ∧ d = 1) := by
  unfold digitValue?
  split <;> simp_all [eq_comm]

theorem le_value (acc : Nat) (cs : List Char) : acc ≤ value acc cs := by
  induction cs generalizing acc with
  | nil => exact Nat.le_refl acc
  | cons c cs ih =>
    have := ih (2 * acc + if c = '1' then 1 else 0)
    simp only [value, List.foldl_cons] at this ⊢
    omega

/-- Digits are read exactly if all are binary and their value fits into a byte. -/
theorem readDigits_eq_ok_iff {acc n : Nat} {cs : List Char} (hacc : acc ≤ 255) :
    readDigits acc cs = .ok n ↔
      (∀ c ∈ cs, c = '0' ∨ c = '1') ∧ value acc cs = n ∧ n ≤ 255 := by
  induction cs generalizing acc with
  | nil =>
    simp only [readDigits, value, List.foldl_nil, List.not_mem_nil, false_implies, implies_true,
      true_and, Except.ok.injEq]
    constructor
    · rintro rfl
      exact ⟨rfl, hacc⟩
    · exact fun h => h.1
  | cons c cs ih =>
    simp only [readDigits, List.forall_mem_cons]
    cases hd : digitValue? c with
    | none =>
      have h0 : c ≠ '0' := by rintro rfl; simp [digitValue?] at hd
      have h1 : c ≠ '1' := by rintro rfl; simp [digitValue?] at hd
      simp [h0, h1]
    | some d =>
      have hc : c = '0' ∨ c = '1' := by
        rcases digitValue?_eq_some_iff.1 hd with ⟨h, -⟩ | ⟨h, -⟩
        · exact Or.inl h
        · exact Or.inr h
      have hv : value acc (c :: cs) = value (2 * acc + d) cs := by
        rcases digitValue?_eq_some_iff.1 hd with ⟨rfl, rfl⟩ | ⟨rfl, rfl⟩ <;> rfl
      simp only [hc, true_and, hv]
      split
      next hle => exact ih hle
      next hgt =>
        have := le_value (2 * acc + d) cs
        simp only [reduceCtorEq, false_iff, not_and]
        omega

end Program

end Ls8
