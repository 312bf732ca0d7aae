import Ls8.Text.Blank

/-!
# Single places of a pattern

A pattern describes texts. Its single places are characters, the full stop for any character, short
names such as `\d` for kinds of characters, and marks for the borders of lines and words. Letter
case, kinds of characters and borders of words are known for ASCII alone, and what a pattern
describes is always text; so the modes in force decide which places can be used.
-/

namespace Ls8.Text.Pattern

/-! ## Modes -/

/-- How a pattern is read, and what its places mean. -/
structure Modes where
  /-- Upper and lower case are not told apart. -/
  foldCase : Bool := false
  /-- The places are characters of Unicode, and not bytes. -/
  unicode : Bool := true
  /-- Blanks and comments are passed over. -/
  loose : Bool := false

/-- The modes after a list of flags; those behind a hyphen are switched off. -/
def Modes.set (m : Modes) (on : Bool) : List Char → Modes
  | [] => m
  | '-' :: flags => m.set false flags
  | 'i' :: flags => Modes.set { m with foldCase := on } on flags
  | 'u' :: flags => Modes.set { m with unicode := on } on flags
  | 'x' :: flags => Modes.set { m with loose := on } on flags
  | _ :: flags => m.set on flags

/-- What is left behind blanks and comments; a comment runs from a hash to the end of its line. -/
def skipBlanks (inComment : Bool) : List Char → List Char
  | [] => []
  | c :: rest =>
    if inComment then skipBlanks (c != '\n') rest
    else if isBlank c then skipBlanks false rest
    else if c = '#' then skipBlanks true rest
    else c :: rest

/-- What is left behind all that is passed over. -/
def Modes.skip (m : Modes) (cs : List Char) : List Char :=
  if m.loose then skipBlanks false cs else cs

/-! ## Places -/

/-- A single place of a pattern. -/
inductive Atom where
  /-- A character, and whether it is written by the two digits of a byte. -/
  | char (c : Char) (octet : Bool)
  /-- Any character. -/
  | any
  /-- The digits, the blanks or the characters of words, or all others. -/
  | kind (others : Bool)
  /-- The start or the end of a line or of the text. -/
  | edge
  /-- The border of a word, or a place that is none. -/
  | wordBorder

/-- Whether a place can be used outside brackets. Without Unicode, a byte past ASCII is no text,
and neither is any byte at all. -/
def Atom.isUsable (m : Modes) : Atom → Bool
  | char c octet => if m.unicode then !m.foldCase else !(octet && 0x80 ≤ c.toNat)
  | any => m.unicode
  | kind others => !m.unicode && !others
  | edge => true
  | wordBorder => !m.unicode

/-- Whether a place can be used inside brackets. Without Unicode they hold bytes, and so only
characters of ASCII. -/
def Atom.isUsableInBrackets (m : Modes) : Atom → Bool
  | char c _ => if m.unicode then !m.foldCase else c.toNat < 0x80
  | kind others => !m.unicode && !others
  | any | edge | wordBorder => false

/-! ## Escapes -/

/-- The value of a hexadecimal digit. -/
def hexValue? (c : Char) : Option Nat :=
  if '0' ≤ c ∧ c ≤ '9' then some (c.toNat - 48)
  else if 'a' ≤ c ∧ c ≤ 'f' then some (c.toNat - 87)
  else if 'A' ≤ c ∧ c ≤ 'F' then some (c.toNat - 55)
  else none

/-- Reads a number of hexadecimal digits, given the value of those before them. -/
def readHex (m : Modes) (value : Nat) : Nat → List Char → Option (Nat × List Char)
  | 0, cs => some (value, cs)
  | n + 1, cs =>
    match m.skip cs with
    | [] => none
    | c :: rest => do readHex m (16 * value + (← hexValue? c)) n rest

/-- Reads a character by the digits of its code point. -/
def readCodePoint (m : Modes) (digits : Nat) (cs : List Char) : Option (Char × List Char) := do
  let (n, rest) ← readHex m 0 digits cs
  if n.isValidChar then return (Char.ofNat n, rest) else none

/-- The character that a letter behind a backslash stands for. -/
def escapedChar? : Char → Option Char
  | 'a' => some '\x07'
  | 'f' => some '\x0c'
  | 'n' => some '\n'
  | 'r' => some '\r'
  | 't' => some '\t'
  | 'v' => some '\x0b'
  | _ => none

/-- Reads an escape behind its backslash. A sign of ASCII that is no letter and no digit stands for
itself. -/
def readEscape (m : Modes) : List Char → Option (Atom × List Char)
  | [] => none
  | c :: rest =>
    if c = 'x' then (readCodePoint m 2 rest).map fun (c, rest) => (.char c true, rest)
    else if c = 'u' then (readCodePoint m 4 rest).map fun (c, rest) => (.char c false, rest)
    else if c = 'U' then (readCodePoint m 8 rest).map fun (c, rest) => (.char c false, rest)
    else if ['d', 's', 'w'].contains c then some (.kind false, rest)
    else if ['D', 'S', 'W'].contains c then some (.kind true, rest)
    else if ['A', 'z'].contains c then some (.edge, rest)
    else if ['b', 'B', '<', '>'].contains c then some (.wordBorder, rest)
    else match escapedChar? c with
      | some c => some (.char c false, rest)
      | none => if c.toNat < 0x80 && !c.isAlphanum then some (.char c false, rest) else none

end Ls8.Text.Pattern
