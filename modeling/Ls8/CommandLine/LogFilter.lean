import Ls8.Event
import Ls8.Text.Alphanumeric
import Ls8.Text.Blank
import Ls8.Text.Pattern
import Ls8.Text.Quoted

/-!
# The log filter

Which events reach the diagnostics. A filter is a list of directives, each a component and a level,
such as `ls8_core::sim=debug`. A directive speaks for every component whose path begins with its
own; it may also ask, in brackets, for a span or for a field that the event has, as in
`ls8_core[{pc}]=trace`, or for a value of the field. Among the directives that speak for an event
the one with the longest path decides. An event is shown if it is at least as grave as the level;
without a directive that speaks for it, it is not.
-/

namespace Ls8

/-- Which events are meant, and the least grave level shown of them. -/
structure Directive where
  component : String
  /-- Only events inside a span are meant. -/
  inSpan : Bool := false
  /-- The field that an event must have. -/
  field : Option String := none
  /-- Without a level nothing is shown. -/
  level : Option Level
  deriving DecidableEq

/-- Whether a directive speaks for an event. Events come from no span, and beside its own fields
each has the field `message`. -/
def Directive.speaksFor (d : Directive) (e : Event) : Bool :=
  !d.inSpan && d.component.isPrefixOf e.component
    && d.field.all fun f => f == "message" || e.fields.any (·.1 == f)

/-- Directives in the order in which they were given. -/
abbrev LogFilter := List Directive

namespace LogFilter

/-! ## Levels -/

/-- Reads a number: decimal digits, with at most one plus sign before them. -/
def numberOf? (word : List Char) : Option Nat :=
  let digits := if word.head? = some '+' then word.tail else word
  if digits.isEmpty || !digits.all Char.isDigit then none
  else some (digits.foldl (fun n c => 10 * n + (c.toNat - '0'.toNat)) 0)

/-- The level that a word names, in any mixture of upper and lower case, or by its rank; `off` and
0 are the level that shows nothing. -/
def levelOf? (word : List Char) : Option (Option Level) :=
  match numberOf? word with
  | some 0 => some none
  | some n => (Level.all.find? (·.rank == n)).map some
  | none =>
    let name := (String.ofList word).toUpper
    if name = "OFF" then some none else (Level.all.find? (·.name == name)).map some

/-- The level behind an equals sign; where none is written everything is shown. -/
def writtenLevel? (word : List Char) : Option (Option Level) :=
  if word.isEmpty then some (some .trace) else levelOf? word

/-! ## Values of fields -/

/-- Whether a word is digits with at most one point among them, and perhaps a power of ten. -/
def isDecimal (word : List Char) : Bool :=
  let (whole, rest) := word.span Char.isDigit
  let (places, rest) :=
    match rest with
    | '.' :: rest => rest.span Char.isDigit
    | _ => ([], rest)
  let hasPower :=
    match rest with
    | [] => true
    | e :: power =>
      let power := if ['+', '-'].contains (power.headD '0') then power.tail else power
      ['e', 'E'].contains e && !power.isEmpty && power.all Char.isDigit
  !(whole ++ places).isEmpty && hasPower

/-- Whether a word is a number, with or without a sign; there are also the infinite one and the one
that is none. -/
def isNumber (word : List Char) : Bool :=
  let word := if ['+', '-'].contains (word.headD '0') then word.tail else word
  isDecimal word || ["inf", "infinity", "nan"].contains (String.ofList word).toLower

/-- Whether a directive can ask for the value: a number, or a pattern. -/
def isValue (word : List Char) : Bool := isNumber word || Text.isPattern word

/-! ## Directives -/

/-- A text whose structure and whose words are read from different bytes: the structure from the
first of each pair, the words from the second. -/
abbrev Marked := List (Char × UInt8)

/-- The word that bytes spell. -/
def wordOf? (bytes : List UInt8) : Option (List Char) :=
  (String.fromUTF8? ⟨bytes.toArray⟩).map String.toList

/-- The word in a marked text. -/
def Marked.word? (m : Marked) : Option (List Char) := wordOf? (m.map (·.2))

/-- The part before the first mark that is one of `ends`, and the part from there on. -/
def cutAt (ends : List Char) (m : Marked) : Marked × Marked :=
  (m.takeWhile fun p => !ends.contains p.1, m.dropWhile fun p => !ends.contains p.1)

/-- Reads what follows a directive's brackets: nothing, or an equals sign and a level. -/
def withLevel? (d : Directive) (rest : Marked) (tail : List UInt8) : Option Directive :=
  match rest with
  | [] => some d
  | ('=', _) :: rest => do
    let level ← writtenLevel? (← wordOf? (rest.map (·.2) ++ tail))
    return { d with level }
  | _ => none

/-- Reads a field: its name, or its name and behind an equals sign its value. Only spans are asked
for values. -/
def withField? (d : Directive) (field : List Char) : Option Directive :=
  let name := field.takeWhile (· != '=')
  let d := { d with field := some (String.ofList name) }
  match field.dropWhile (· != '=') with
  | [] => some d
  | _ :: value =>
    if isValue (value.takeWhile (· != '=')) then some { d with inSpan := true } else none

/-- Reads a directive's brackets from behind the first one: a span, a field in braces, or both. -/
def withScope? (d : Directive) (rest : Marked) (tail : List UInt8) : Option Directive :=
  let (span, rest) := cutAt [']', '\x7b'] rest
  match rest with
  | (']', _) :: rest => withLevel? { d with inSpan := true } rest tail
  | _ :: rest =>
    let (field, rest) := cutAt ['\x7d'] rest
    match rest with
    | _ :: (']', _) :: rest =>
      if field.isEmpty then none
      else do
        let d ← withField? { d with inSpan := !span.isEmpty } (← field.word?)
        withLevel? d rest tail
    | _ => none
  | [] => none

/-- Whether a directive can begin with the character. -/
def startsDirective (c : Char) : Bool :=
  Text.isAlphanumeric c || ['-', ':', '_', '['].contains c

/-- Reads a directive: a level for all components, a component, or a component and its level. The
structure is found in the text without the blanks around it, and the words stand at the same bytes
of the text with them; so a directive with a blank before it names no component there is. -/
def directiveOf? (text : String) : Option Directive :=
  let body := Text.trim text.toList
  let marks := (String.ofList body).toUTF8.toList.map Char.ofUInt8
  let bytes := text.toUTF8.toList
  let tail := bytes.drop marks.length
  let (name, rest) := cutAt ['=', '['] (marks.zip bytes)
  if !body.head?.any startsDirective then none
  else
    match rest with
    | [] =>
      match levelOf? text.toList with
      | some level => some { component := "", level }
      | none => some { component := text, level := some .trace }
    | (mark, _) :: behind => do
      let component := String.ofList (← name.word?)
      let d : Directive := { component, level := some .trace }
      if mark = '[' then withScope? d behind tail else withLevel? d rest tail

/-- Reads directives with commas between them. -/
def parse? (setting : String) : Option LogFilter :=
  ((setting.splitOn ",").filter fun d => !d.isEmpty).mapM directiveOf?

/-- The filter without a setting: everything when tracing, else what is as grave as a warning. -/
def standard (tracing : Bool) : LogFilter :=
  if tracing then [{ component := "ls8_core", level := some .trace }]
  else [{ component := "", level := some .warn }]

/-- The filter of a setting; one that cannot be read counts as none. -/
def ofSetting (setting : Option String) (tracing : Bool) : LogFilter :=
  (setting.bind parse?).getD (standard tracing)

/-! ## Asking it -/

/-- Whether the first directive yields to the second: the longer path decides, then that a field is
asked for, then the order of the fields' names, and of equals the later one. -/
def yields (a b : Directive) : Bool :=
  if a.component.length = b.component.length then
    match a.field, b.field with
    | none, _ => true
    | some _, none => false
    | some f, some g => f ≤ g
  else a.component.length < b.component.length

/-- The better of two directives that speak for an event. -/
def prefer (best : Option Directive) (d : Directive) : Option Directive :=
  match best with
  | none => some d
  | some b => if yields b d then some d else some b

/-- The directive that decides on an event. -/
def directiveFor? (f : LogFilter) (e : Event) : Option Directive :=
  (f.filter (·.speaksFor e)).foldl prefer none

/-- Whether an event is shown. -/
def shows (f : LogFilter) (e : Event) : Bool :=
  match (f.directiveFor? e).bind (·.level) with
  | none => false
  | some level => e.level.rank ≤ level.rank

end LogFilter

/-! ## Log lines -/

/-- The value of a field in a log line. -/
def Event.Value.text : Event.Value → String
  | number n => toString n
  | quoted s => Text.quote s
  | bare s => s

/-- An event as a line of the log. -/
def Event.line (e : Event) : String :=
  let fields := e.fields.map fun (name, value) => " " ++ name ++ "=" ++ value.text
  e.level.name ++ " " ++ e.message ++ String.join fields

end Ls8
