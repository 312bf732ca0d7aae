import Ls8.Json.Number
import Ls8.Json.Text

/-!
# Single values

Reading a boolean or a byte, and recognising what stands in the place of a value of another kind. A
list or an object of the wrong kind is refused at its bracket, before its content is read.
-/

namespace Ls8.Json

/-- Takes the given bytes, one after the other. -/
def readWord : Bytes → Reader Unit
  | [], bytes => .ok ((), bytes)
  | _ :: _, [] => failHere (.endOfInput .value) []
  | w :: word, b :: rest => if b = w then readWord word rest else failHere .expectedWord rest

/-- The kind of the value that comes next. -/
def readFound : Reader Found
  | [] => failAtNext .expectedValue []
  | b :: rest =>
    match Char.ofUInt8 b with
    | 'n' => (readWord (utf8 "ull") rest).map fun r => (.null, r.2)
    | 't' => (readWord (utf8 "rue") rest).map fun r => (.boolean true, r.2)
    | 'f' => (readWord (utf8 "alse") rest).map fun r => (.boolean false, r.2)
    | '-' => (readNumber true rest).map fun r => (.number r.1, r.2)
    | '"' => (readString rest).map fun r => (.text (textOf r.1), r.2)
    | '[' => .ok (.sequence, b :: rest)
    | '\x7b' => .ok (.map, b :: rest)
    | _ =>
      if isDigit b then (readNumber false (b :: rest)).map fun r => (.number r.1, r.2)
      else failAtNext .expectedValue (b :: rest)

/-- Refuses the value that comes next, which is of another kind than expected. -/
def refuse {α : Type} (expected : String) : Reader α := fun bytes => do
  let (found, rest) ← readFound bytes
  failHere (.wrongKind found expected) rest

/-- Reads `true` or `false`. -/
def readBoolean : Reader Bool := fun bytes =>
  match skipSpace bytes with
  | [] => failAtNext (.endOfInput .value) []
  | b :: rest =>
    if b = ascii 't' then (readWord (utf8 "rue") rest).map fun r => (true, r.2)
    else if b = ascii 'f' then (readWord (utf8 "alse") rest).map fun r => (false, r.2)
    else refuse "a boolean" (b :: rest)

/-- A number as a byte: an integer from 0 to 255. -/
def byteOfNumber : Number → Reader UInt8
  | .integer n, rest =>
    if 0 ≤ n ∧ n ≤ 255 then .ok (UInt8.ofNat n.toNat, rest)
    else failHere (.outOfRange n "u8") rest
  | .double x, rest => failHere (.wrongKind (.number (.double x)) "u8") rest

/-- Reads an integer from 0 to 255. -/
def readByte : Reader UInt8 := fun bytes =>
  match skipSpace bytes with
  | [] => failAtNext (.endOfInput .value) []
  | b :: rest =>
    if b = ascii '-' then do
      let (n, rest) ← readNumber true rest
      byteOfNumber n rest
    else if isDigit b then do
      let (n, rest) ← readNumber false (b :: rest)
      byteOfNumber n rest
    else refuse "u8" (b :: rest)

end Ls8.Json
