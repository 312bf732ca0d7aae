import Ls8.Json.Failure

/-!
# The grammar of JSON

What a JSON document is, apart from how it is read. A rule relates what it derives to the bytes in
front of which that stands and the bytes that are left behind it, so rules are chained without
splitting a text: `Writes v bytes rest` says that `bytes` is the value `v` and then `rest`.

The content of a string is kept in UTF-8 with its escapes resolved. A number is kept as it is written.

Main definitions:

* `Spells` — a string and its content.
* `Writes`, with `Elements` and `Members` — a value.
* `Document` — a whole text: a value with nothing but space around it.
-/

namespace Ls8.Json

/-- A JSON value. -/
inductive Value where
  | null
  | boolean (b : Bool)
  | number (text : Bytes)
  | string (content : Bytes)
  | list (elements : List Value)
  | object (members : List (Bytes × Value))

/-! ## Space -/

/-- The characters that separate values. -/
def spaces : List UInt8 := [ascii ' ', ascii '\n', ascii '\t', ascii '\r']

/-- Space of any length. -/
inductive Space : Bytes → Bytes → Prop
  | nil (rest : Bytes) : Space rest rest
  | cons {b : UInt8} {bytes rest : Bytes} : b ∈ spaces → Space bytes rest → Space (b :: bytes) rest

/-! ## Strings -/

/-- A hexadecimal digit and its value. Letters may be of either case. -/
def HexDigit (b : UInt8) (n : Nat) : Prop :=
  n < 16 ∧ (b = ascii (Nat.digitChar n) ∨ b = ascii (Nat.digitChar n).toUpper)

/-- Four hexadecimal digits and their value. -/
inductive Hex : Nat → Bytes → Bytes → Prop
  | mk {a b c d : UInt8} {p q r s : Nat} {rest : Bytes} :
      HexDigit a p → HexDigit b q → HexDigit c r → HexDigit d s →
        Hex (((p * 16 + q) * 16 + r) * 16 + s) (a :: b :: c :: d :: rest) rest

/-- The letters that stand for a character when they follow a backslash. -/
def escapes : List (Char × Char) :=
  [('"', '"'), ('\\', '\\'), ('/', '/'), ('b', '\x08'), ('f', '\x0c'), ('n', '\n'), ('r', '\r'),
    ('t', '\t')]

/-- The number of a character in UTF-16. Past 16 bits it has two halves, of ten bits each. -/
inductive CodePoint : Char → Bytes → Bytes → Prop
  | single {c : Char} {bytes rest : Bytes} :
      c.toNat < 0x10000 → Hex c.toNat bytes rest → CodePoint c bytes rest
  | pair {c : Char} {bytes bytes' rest : Bytes} :
      0x10000 ≤ c.toNat →
      Hex (0xD800 + (c.toNat - 0x10000) / 0x400) bytes (ascii '\\' :: ascii 'u' :: bytes') →
      Hex (0xDC00 + (c.toNat - 0x10000) % 0x400) bytes' rest → CodePoint c bytes rest

/-- What follows the backslash of an escape. -/
inductive Escape : Char → Bytes → Bytes → Prop
  | letter {l c : Char} {rest : Bytes} : (l, c) ∈ escapes → Escape c (ascii l :: rest) rest
  | codePoint {c : Char} {bytes rest : Bytes} :
      CodePoint c bytes rest → Escape c (ascii 'u' :: bytes) rest

/-- The content of a string, and the string from behind its opening quote. -/
inductive Spells : Bytes → Bytes → Bytes → Prop
  | nil (rest : Bytes) : Spells [] (ascii '"' :: rest) rest
  | plain {b : UInt8} {content bytes rest : Bytes} :
      0x20 ≤ b → b ≠ ascii '"' → b ≠ ascii '\\' →
      Spells content bytes rest → Spells (b :: content) (b :: bytes) rest
  | escape {c : Char} {content bytes bytes' rest : Bytes} :
      Escape c bytes bytes' → Spells content bytes' rest →
        Spells (String.utf8EncodeChar c ++ content) (ascii '\\' :: bytes) rest

/-! ## Numbers -/

/-- A natural number in decimal, without leading zeros. -/
def numeral (n : Nat) : Bytes := utf8 (toString n)

/-- A decimal digit. -/
def digit (n : Nat) : UInt8 := ascii (Nat.digitChar n)

/-- One decimal digit or more. -/
def Digits (text : Bytes) : Prop := text ≠ [] ∧ ∀ b ∈ text, ∃ n < 10, b = digit n

/-- Nothing, or a point and the digits behind it. -/
inductive IsFraction : Bytes → Prop
  | none : IsFraction []
  | some {digits : Bytes} : Digits digits → IsFraction (ascii '.' :: digits)

/-- Nothing, or a power of ten. -/
inductive IsPower : Bytes → Prop
  | none : IsPower []
  | some {e : UInt8} {sign digits : Bytes} :
      e ∈ utf8 "eE" → sign ∈ [[], utf8 "+", utf8 "-"] → Digits digits → IsPower (e :: sign ++ digits)

/-- A number. -/
def IsNumber (text : Bytes) : Prop :=
  ∃ sign n fraction power, sign ∈ [[], utf8 "-"] ∧ IsFraction fraction ∧ IsPower power ∧
    text = sign ++ numeral n ++ fraction ++ power

/-! ## Values -/

/-- What stands in front of an element or a member: space, and a comma unless it is the first. -/
def Separator : Bool → Bytes → Bytes → Prop
  | true, bytes, rest => Space bytes rest
  | false, bytes, rest => ∃ behind, Space bytes (ascii ',' :: behind) ∧ Space behind rest

mutual

/-- A value. -/
inductive Writes : Value → Bytes → Bytes → Prop
  | null (rest : Bytes) : Writes .null (utf8 "null" ++ rest) rest
  | boolean (b : Bool) (rest : Bytes) : Writes (.boolean b) (utf8 (toString b) ++ rest) rest
  | number {text : Bytes} (rest : Bytes) : IsNumber text → Writes (.number text) (text ++ rest) rest
  | string {content bytes rest : Bytes} :
      Spells content bytes rest → Writes (.string content) (ascii '"' :: bytes) rest
  | list {vs : List Value} {bytes rest : Bytes} :
      Elements true vs bytes (ascii ']' :: rest) → Writes (.list vs) (ascii '[' :: bytes) rest
  | object {ms : List (Bytes × Value)} {bytes rest : Bytes} :
      Members true ms bytes (ascii '\x7d' :: rest) →
        Writes (.object ms) (ascii '\x7b' :: bytes) rest

/-- The elements of a list up to its end. The first of them follows the bracket. -/
inductive Elements : Bool → List Value → Bytes → Bytes → Prop
  | nil {first : Bool} {bytes rest : Bytes} : Space bytes rest → Elements first [] bytes rest
  | cons {first : Bool} {v : Value} {vs : List Value} {bytes start behind rest : Bytes} :
      Separator first bytes start → Writes v start behind → Elements false vs behind rest →
        Elements first (v :: vs) bytes rest

/-- The members of an object up to its end. -/
inductive Members : Bool → List (Bytes × Value) → Bytes → Bytes → Prop
  | nil {first : Bool} {bytes rest : Bytes} : Space bytes rest → Members first [] bytes rest
  | cons {first : Bool} {key : Bytes} {v : Value} {ms : List (Bytes × Value)}
      {bytes name afterName afterColon start behind rest : Bytes} :
      Separator first bytes (ascii '"' :: name) → Spells key name afterName →
      Space afterName (ascii ':' :: afterColon) → Space afterColon start →
      Writes v start behind → Members false ms behind rest →
        Members first ((key, v) :: ms) bytes rest

end

/-- A whole text: a value with nothing but space around it. -/
def Document (bytes : Bytes) (v : Value) : Prop :=
  ∃ start behind, Space bytes start ∧ Writes v start behind ∧ Space behind []

end Ls8.Json
