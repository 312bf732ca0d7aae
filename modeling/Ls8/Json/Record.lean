import Ls8.Json.Scalar

/-!
# Records

A record has named fields, each with a default. It is written as an object, whose members come in
any order and each at most once, or as a list, whose elements are the fields in their order. A field
name is checked as soon as its string ends, and a value as soon as it is read.
-/

namespace Ls8.Json

/-- A field of a record: its name, and how its value changes the record. -/
structure Field (σ : Type) where
  name : String
  read : Reader (σ → σ)

/-- The form of a record. -/
structure Shape (σ : Type) where
  /-- What a report calls the record. -/
  kind : String
  fields : List (Field σ)
  /-- The record without any field written. -/
  empty : σ

/-- Whether a field has a name, given in UTF-8. -/
def Field.isNamed {σ : Type} (f : Field σ) (key : Bytes) : Bool := utf8 f.name == key

/-! ## Lists -/

/-- Whether another element follows. -/
def hasNextElement (first : Bool) : Reader Bool := fun bytes =>
  match skipSpace bytes with
  | [] => failAtNext (.endOfInput .list) []
  | b :: rest =>
    if b = ascii ']' then .ok (false, b :: rest)
    else if first then .ok (true, b :: rest)
    else if b = ascii ',' then
      match skipSpace rest with
      | [] => failAtNext (.endOfInput .value) []
      | e :: rest =>
        if e = ascii ']' then failAtNext .trailingComma (e :: rest) else .ok (true, e :: rest)
    else failAtNext .expectedCommaOrBracket (b :: rest)

/-- Reads elements into the given fields, one each, until the list or the fields end. -/
def readElements {σ : Type} (first : Bool) (x : σ) : List (Field σ) → Reader σ
  | [], bytes => .ok (x, bytes)
  | f :: fields, bytes => do
    let (more, rest) ← hasNextElement first bytes
    if more then
      let (set, rest) ← f.read rest
      readElements false (set x) fields rest
    else return (x, rest)

/-- Takes the end of a list. -/
def readListEnd : Reader Unit := fun bytes =>
  match skipSpace bytes with
  | [] => failAtNext (.endOfInput .list) []
  | b :: rest =>
    if b = ascii ']' then .ok ((), rest)
    else if b = ascii ',' then
      let rest := skipSpace rest
      failAtNext (if rest.head? = some (ascii ']') then .trailingComma else .trailingCharacters)
        rest
    else failAtNext .trailingCharacters (b :: rest)

/-! ## Objects -/

/-- Whether another member follows; its name comes next. -/
def hasNextMember (first : Bool) : Reader Bool := fun bytes =>
  match skipSpace bytes with
  | [] => failAtNext (.endOfInput .object) []
  | b :: rest =>
    if b = ascii '\x7d' then .ok (false, b :: rest)
    else if first then
      if b = ascii '"' then .ok (true, b :: rest) else failAtNext .keyNotString (b :: rest)
    else if b = ascii ',' then
      match skipSpace rest with
      | [] => failAtNext (.endOfInput .value) []
      | k :: rest =>
        if k = ascii '"' then .ok (true, k :: rest)
        else if k = ascii '\x7d' then failAtNext .trailingComma (k :: rest)
        else failAtNext .keyNotString (k :: rest)
    else failAtNext .expectedCommaOrBrace (b :: rest)

/-- Takes the colon behind a name. -/
def readColon : Reader Unit := fun bytes =>
  match skipSpace bytes with
  | [] => failAtNext (.endOfInput .object) []
  | b :: rest =>
    if b = ascii ':' then .ok ((), rest) else failAtNext .expectedColon (b :: rest)

/-- Takes the end of an object. -/
def readObjectEnd : Reader Unit := fun bytes =>
  match skipSpace bytes with
  | [] => failAtNext (.endOfInput .object) []
  | b :: rest =>
    if b = ascii '\x7d' then .ok ((), rest)
    else if b = ascii ',' then failAtNext .trailingComma (b :: rest)
    else failAtNext .trailingCharacters (b :: rest)

/-- Where a wrong field name is reported: behind the space that follows it, and behind the end of
the object if that comes next. -/
def afterName (rest : Bytes) : Bytes :=
  let rest := skipSpace rest
  if rest.head? = some (ascii '\x7d') then rest.tail else rest

/-- The fields that do not have the name. -/
def without {σ : Type} (fields : List (Field σ)) (key : Bytes) : List (Field σ) :=
  fields.filter fun f => !f.isNamed key

theorem length_without_lt {σ : Type} {fields : List (Field σ)} {key : Bytes} {f : Field σ}
    (h : fields.find? (fun f => f.isNamed key) = some f) :
    (without fields key).length < fields.length := by
  have hname : f.isNamed key = true := by simpa using List.find?_some h
  exact List.length_filter_lt_length_iff_exists.2
    ⟨f, List.mem_of_find?_eq_some h, by simp [hname]⟩

/-- Reads members into the fields not seen so far, until the object ends. -/
def readMembers {σ : Type} (shape : Shape σ) (unseen : List (Field σ)) (first : Bool) (x : σ) :
    Reader σ := fun bytes => do
  let (more, rest) ← hasNextMember first bytes
  if more then
    let (key, rest) ← readString rest.tail
    match _h : unseen.find? (·.isNamed key) with
    | some f =>
      let (_, rest) ← readColon rest
      let (set, rest) ← f.read rest
      readMembers shape (without unseen key) false (set x) rest
    | none =>
      if shape.fields.any (·.isNamed key) then
        failHere (.duplicateField (textOf key)) (afterName rest)
      else failHere (.unknownField (textOf key) (shape.fields.map (·.name))) (afterName rest)
  else return (x, rest)
termination_by unseen.length
decreasing_by
  exact length_without_lt _h

/-! ## Records and documents -/

/-- Reads a record. -/
def Shape.read {σ : Type} (shape : Shape σ) : Reader σ := fun bytes =>
  match skipSpace bytes with
  | [] => failAtNext (.endOfInput .value) []
  | b :: rest =>
    if b = ascii '[' then do
      let (x, rest) ← readElements true shape.empty shape.fields rest
      let (_, rest) ← readListEnd rest
      return (x, rest)
    else if b = ascii '\x7b' then do
      let (x, rest) ← readMembers shape shape.fields true shape.empty rest
      let (_, rest) ← readObjectEnd rest
      return (x, rest)
    else refuse shape.kind (b :: rest)

/-- Reads a whole document: one value with nothing but space around it. -/
def readDocument {α : Type} (reader : Reader α) (bytes : Bytes) : Except Failure α := do
  let (x, rest) ← reader bytes
  let rest := skipSpace rest
  if rest.isEmpty then return x else failAtNext .trailingCharacters rest

end Ls8.Json
