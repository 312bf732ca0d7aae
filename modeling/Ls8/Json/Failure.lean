import Ls8.Json.Found

/-!
# Failures of reading

What can be wrong with a document, and where. A reader works on the bytes that are left; a failure
carries the bytes left behind its place, and the place is the line and column that the bytes before
them reach.
-/

namespace Ls8.Json

/-- The bytes of a document in UTF-8. -/
abbrev Bytes := List UInt8

/-- The bytes of a text. -/
def utf8 (s : String) : Bytes := s.toList.flatMap String.utf8EncodeChar

/-- The text of bytes; bytes that are no text give none. -/
def textOf (bytes : Bytes) : String := (String.fromUTF8? ⟨bytes.toArray⟩).getD ""

/-! ## Problems -/

/-- Where a document ended too soon. -/
inductive Place where
  | value
  | object
  | list
  | string
  deriving DecidableEq

/-- What is wrong with a document. -/
inductive Problem where
  /-- The document ends inside something. -/
  | endOfInput (inside : Place)
  | expectedValue
  /-- A word that begins like `true`, `false` or `null` goes on otherwise. -/
  | expectedWord
  | expectedColon
  | expectedCommaOrBrace
  | expectedCommaOrBracket
  | keyNotString
  | trailingComma
  | trailingCharacters
  | invalidNumber
  | numberOutOfRange
  | invalidEscape
  | controlCharacter
  | loneSurrogate
  | unexpectedEndOfEscape
  /-- A field name that the record does not have. -/
  | unknownField (name : String) (known : List String)
  | duplicateField (name : String)
  /-- A value of another kind than expected. -/
  | wrongKind (found : Found) (expected : String)
  /-- An integer outside the range of the expected kind. -/
  | outOfRange (n : Int) (expected : String)

/-- Names in backticks, joined as a choice. -/
def choice (names : List String) : String :=
  String.intercalate " or " (names.map fun n => "`" ++ n ++ "`")

/-- The words for a place. -/
def Place.name : Place → String
  | value => "a value"
  | object => "an object"
  | list => "a list"
  | string => "a string"

/-- The sentence that reports a problem, without its place. -/
def Problem.message : Problem → String
  | endOfInput inside => "EOF while parsing " ++ inside.name
  | expectedValue => "expected value"
  | expectedWord => "expected ident"
  | expectedColon => "expected `:`"
  | expectedCommaOrBrace => "expected `,` or `\x7d`"
  | expectedCommaOrBracket => "expected `,` or `]`"
  | keyNotString => "key must be a string"
  | trailingComma => "trailing comma"
  | trailingCharacters => "trailing characters"
  | invalidNumber => "invalid number"
  | numberOutOfRange => "number out of range"
  | invalidEscape => "invalid escape"
  | controlCharacter => "control character (\\u0000-\\u001F) found while parsing a string"
  | loneSurrogate => "lone leading surrogate in hex escape"
  | unexpectedEndOfEscape => "unexpected end of hex escape"
  | unknownField name known => "unknown field `" ++ name ++ "`, expected " ++ choice known
  | duplicateField name => "duplicate field `" ++ name ++ "`"
  | wrongKind found expected => "invalid type: " ++ found.describe ++ ", expected " ++ expected
  | outOfRange n expected =>
    "invalid value: " ++ (Number.integer n).describe ++ ", expected " ++ expected

/-! ## Readers -/

/-- A problem, and the bytes left behind its place. -/
structure Failure where
  problem : Problem
  rest : Bytes

/-- Takes a value from the front of the bytes and leaves the rest. -/
abbrev Reader (α : Type) := Bytes → Except Failure (α × Bytes)

/-- The byte of an ASCII character. -/
def ascii (c : Char) : UInt8 := c.toUInt8

/-- A problem at the byte that comes next, which counts to its place. -/
def failAtNext {α : Type} (problem : Problem) (bytes : Bytes) : Except Failure α :=
  .error ⟨problem, bytes.tail⟩

/-- A problem right behind the bytes taken so far. -/
def failHere {α : Type} (problem : Problem) (rest : Bytes) : Except Failure α :=
  .error ⟨problem, rest⟩

/-- The bytes between values that mean nothing. -/
def isSpace (b : UInt8) : Bool :=
  b == ascii ' ' || b == ascii '\n' || b == ascii '\t' || b == ascii '\r'

/-- Leaves out the space at the front. -/
def skipSpace (bytes : Bytes) : Bytes := bytes.dropWhile isSpace

/-! ## Places -/

/-- A place in a document: lines count from 1, columns are the bytes since the last line feed. -/
structure Position where
  line : Nat
  column : Nat
  deriving DecidableEq

namespace Position

/-- The place before the first byte. -/
def start : Position := ⟨1, 0⟩

/-- The place behind one more byte. -/
def next (p : Position) (b : UInt8) : Position :=
  if b = ascii '\n' then ⟨p.line + 1, 0⟩ else ⟨p.line, p.column + 1⟩

/-- The place behind more bytes. -/
def advance (p : Position) (bytes : Bytes) : Position := bytes.foldl next p

end Position

/-- A problem of a document and its place. -/
structure Error where
  problem : Problem
  position : Position

/-- The error of a failure in a document: its place is behind all bytes but the rest. -/
def Failure.locate (f : Failure) (document : Bytes) : Error where
  problem := f.problem
  position := Position.start.advance (document.take (document.length - f.rest.length))

/-- The sentence that reports an error. -/
def Error.message (e : Error) : String :=
  e.problem.message ++ " at line " ++ toString e.position.line ++ " column "
    ++ toString e.position.column

end Ls8.Json
