import Ls8.Text.Alphanumeric
import Ls8.Text.Pattern.Atom

/-!
# Patterns

Which texts are patterns, that is regular expressions. Behind one another stand places, groups in
parentheses and classes in brackets, each of them with marks of repetition if need be; a bar parts
the branches of a group, and a group can set modes. Counts of repetitions in braces are not known
here: no pattern that this library reads can hold a closing brace.

A pattern is read from left to right, one part at a time, and nothing is kept of it but what later
parts depend on: the open groups and brackets, the names of groups, the modes, and how deeply
everything is nested.
-/

namespace Ls8.Text

namespace Pattern

/-! ## What is kept -/

/-- How deep things are that stand side by side: one alone is as deep as it is, and several are one
deeper than the deepest. -/
def depthOf : List Nat → Nat
  | [] => 0
  | [depth] => depth
  | depths => depths.foldr max 0 + 1

/-- A part of a branch. -/
structure Part where
  /-- How deeply it is nested. -/
  depth : Nat := 0
  /-- Whether a mark of repetition can follow it. -/
  repeatable : Bool := true

/-- A group being read: the modes in force, the parts of its last branch, the last one first, and
the depths of the branches before. -/
structure Group where
  modes : Modes := {}
  parts : List Part := []
  branches : List Nat := []

/-- How deep the last branch of a group is. -/
def Group.branchDepth (g : Group) : Nat := depthOf (g.parts.map (·.depth))

/-- How deep a group is inside. -/
def Group.depth (g : Group) : Nat := depthOf (g.branchDepth :: g.branches)

/-- Brackets being read: how deep all is that stands before the last operator between classes, and
how deep each member behind it is. -/
structure Brackets where
  left : Option Nat := none
  members : List Nat := []
  /-- Whether nothing was read but hyphens, which are members at this place. -/
  fresh : Bool := true

/-- How deep brackets are inside. -/
def Brackets.depth (b : Brackets) : Nat :=
  match b.left with
  | none => depthOf b.members
  | some left => max left (depthOf b.members) + 1

/-- Brackets with one more member. -/
def Brackets.add (b : Brackets) (depth : Nat) : Brackets :=
  { b with members := depth :: b.members, fresh := false }

/-- What is kept of a pattern while it is read. -/
structure State where
  /-- The innermost open group; the whole pattern is one. -/
  group : Group := {}
  /-- The groups around it, from the inside out. -/
  outer : List Group := []
  /-- The open brackets, from the inside out. -/
  brackets : List Brackets := []
  /-- The names of groups so far. -/
  names : List (List Char) := []

/-- What reading a part leaves: what is kept, and the rest of the pattern. -/
abbrev Step := Option (State × List Char)

/-- One more part in the last branch. -/
def State.add (s : State) (part : Part) : State :=
  { s with group.parts := part :: s.group.parts }

/-! ## Groups -/

/-- A new group inside. -/
def State.enter (s : State) (modes : Modes) : State :=
  { s with group := { modes }, outer := s.group :: s.outer }

/-- Closes the innermost group. -/
def State.leave? (s : State) : Option State :=
  match s.outer with
  | [] => none
  | group :: outer => some (State.add { s with group, outer } { depth := s.group.depth + 1 })

/-- Begins a new branch. -/
def State.nextBranch (s : State) : State :=
  let branches := s.group.branchDepth :: s.group.branches
  { s with group := { s.group with parts := [], branches } }

/-- Repeats the last part. -/
def State.repeat? (s : State) : Option State :=
  match s.group.parts with
  | [] => none
  | part :: parts =>
    if part.repeatable then
      some { s with group.parts := { depth := part.depth + 1 } :: parts }
    else none

/-- Whether a group can have the name. -/
def isName : List Char → Bool
  | [] => false
  | c :: rest =>
    (c = '_' || isAlphabetic c)
      && rest.all fun c => ['_', '.', '[', ']'].contains c || isAlphanumeric c

/-- Whether these are flags: each at most once, and a hyphen not at the end. -/
def areFlags (flags : List Char) : Bool :=
  flags.all ['-', 'i', 'm', 's', 'U', 'u', 'R', 'x'].contains && decide flags.Nodup
    && flags.getLast? != some '-'

/-- Reads the name of a group, and enters it. -/
def enterNamed (s : State) (cs : List Char) : Step :=
  let name := cs.takeWhile (· != '>')
  match cs.dropWhile (· != '>') with
  | [] => none
  | _ :: rest =>
    if isName name && !s.names.contains name then
      some ({ s.enter s.group.modes with names := name :: s.names }, rest)
    else none

/-- Reads flags, and enters a group in which they hold, or lets them hold from here on. -/
def readFlags (s : State) (cs : List Char) : Step :=
  let flags := cs.takeWhile fun c => c != ':' && c != ')'
  let modes := s.group.modes.set true flags
  if !areFlags flags then none
  else
    match cs.dropWhile fun c => c != ':' && c != ')' with
    | ':' :: rest => some (s.enter modes, rest)
    | ')' :: rest =>
      if flags.isEmpty then none
      else some (State.add { s with group.modes := modes } { repeatable := false }, rest)
    | _ => none

/-- Reads what opens a group, from behind the parenthesis. -/
def openGroup (s : State) (cs : List Char) : Step :=
  match s.group.modes.skip cs with
  | '?' :: 'P' :: '<' :: rest => enterNamed s rest
  | '?' :: '<' :: rest => enterNamed s rest
  | '?' :: rest => readFlags s rest
  | rest => some (s.enter s.group.modes, rest)

/-! ## Brackets -/

/-- Opens brackets. Without Unicode no class can be all but its members, since bytes past ASCII
would be among these. -/
def openBrackets (s : State) (cs : List Char) : Step :=
  let m := s.group.modes
  match m.skip cs with
  | '^' :: rest =>
    if m.unicode then some ({ s with brackets := {} :: s.brackets }, rest) else none
  | rest => some ({ s with brackets := {} :: s.brackets }, rest)

/-- Closes the innermost brackets. -/
def State.closeBrackets (s : State) (b : Brackets) : List Brackets → State
  | [] => State.add { s with brackets := [] } { depth := b.depth + 1 }
  | o :: outer => { s with brackets := o.add (b.depth + 1) :: outer }

/-- The names of kinds of ASCII characters. -/
def kindNames : List String :=
  ["alnum", "alpha", "ascii", "blank", "cntrl", "digit", "graph", "lower", "print", "punct",
    "space", "upper", "word", "xdigit"]

/-- Reads the name of a kind between colons, from behind the opening bracket; whether all others are
meant, and the rest behind the closing one. -/
def readKind? : List Char → Option (Bool × List Char)
  | ':' :: cs =>
    let others := cs.head? == some '^'
    let cs := if others then cs.tail else cs
    match cs.dropWhile (· != ':') with
    | ':' :: ']' :: rest =>
      if kindNames.contains (String.ofList (cs.takeWhile (· != ':'))) then some (others, rest)
      else none
    | _ => none
  | _ => none

/-- Reads a single place inside brackets. -/
def readMember (m : Modes) : List Char → Option (Atom × List Char)
  | [] => none
  | '\\' :: rest => readEscape m rest
  | c :: rest => some (.char c false, rest)

/-- The character that decides whether a hyphen stands between two ends: the first one behind
blanks; a comment counts for its hash alone. -/
def behindHyphen? (m : Modes) (cs : List Char) : Option Char :=
  if !m.loose then cs.head?
  else
    match cs.dropWhile isBlank with
    | '#' :: rest => (rest.dropWhile isBlank).head?
    | rest => rest.head?

/-- Whether two places are the ends of a range. -/
def areEnds (m : Modes) : Atom → Atom → Bool
  | .char low octet, .char high octet' =>
    low ≤ high && (Atom.char low octet).isUsableInBrackets m
      && (Atom.char high octet').isUsableInBrackets m
  | _, _ => false

/-- Reads a single member of brackets, or a range from one character to another; leaves what stands
behind it. -/
def readRange? (m : Modes) (cs : List Char) : Option (List Char) := do
  let (low, rest) ← readMember m cs
  match m.skip rest with
  | '-' :: rest =>
    let next := behindHyphen? m rest
    if next == some ']' || next == some '-' then
      if low.isUsableInBrackets m then return '-' :: rest else none
    else
      let (high, rest) ← readMember m (m.skip rest)
      if areEnds m low high then return rest else none
  | rest => if low.isUsableInBrackets m then return rest else none

/-- Reads the next part inside brackets `b`, which stand in the brackets `outer`. -/
def readInBrackets (s : State) (b : Brackets) (outer : List Brackets) (c : Char)
    (rest : List Char) : Step :=
  let m := s.group.modes
  let continued (b : Brackets) (rest : List Char) : State × List Char :=
    ({ s with brackets := b :: outer }, rest)
  if b.fresh && (c = '-' || (c = ']' && b.members.isEmpty)) then
    if (Atom.char c false).isUsableInBrackets m then
      some (continued { b.add 0 with fresh := c = '-' } rest)
    else none
  else if c = ']' then some (s.closeBrackets b outer, rest)
  else if ['&', '-', '~'].contains c && rest.head? == some c then
    some (continued { left := some b.depth, fresh := false } rest.tail)
  else
    let s := (continued { b with fresh := false } rest).1
    if c = '[' then
      match readKind? rest with
      | some (others, rest) =>
        let usable := if m.unicode then !m.foldCase else !others
        if usable then some (continued (b.add 0) rest) else none
      | none => openBrackets s rest
    else (readRange? m (c :: rest)).map (continued (b.add 0))

/-! ## The whole -/

/-- Reads a single place outside brackets. -/
def readAtom (m : Modes) : Char → List Char → Option (Atom × List Char)
  | '\\', rest => readEscape m rest
  | '.', rest => some (.any, rest)
  | '^', rest => some (.edge, rest)
  | '$', rest => some (.edge, rest)
  | c, rest => some (.char c false, rest)

/-- Reads the next part outside brackets. -/
def readInGroup (s : State) (c : Char) (rest : List Char) : Step :=
  if c = '(' then openGroup s rest
  else if c = ')' then s.leave?.map fun s => (s, rest)
  else if c = '|' then some (s.nextBranch, rest)
  else if c = '[' then openBrackets s rest
  else if ['?', '*', '+'].contains c then
    s.repeat?.map fun s => (s, if rest.head? == some '?' then rest.tail else rest)
  else if c = '\x7b' then none
  else
    match readAtom s.group.modes c rest with
    | some (atom, rest) => if atom.isUsable s.group.modes then some (s.add {}, rest) else none
    | none => none

/-- Reads the next part of a pattern. -/
def readPart (s : State) (c : Char) (rest : List Char) : Step :=
  if s.group.modes.loose && (isBlank c || c = '#') then some (s, s.group.modes.skip (c :: rest))
  else
    match s.brackets with
    | b :: outer => readInBrackets s b outer c rest
    | [] => readInGroup s c rest

/-- Reads a pattern to its end. No part puts back more than what stands behind its first
character, so the reading comes to an end. -/
def read (s : State) : List Char → Option State
  | [] => some s
  | c :: cs =>
    match readPart s c cs with
    | none => none
    | some (s, rest) => if rest.length ≤ cs.length then read s rest else none
  termination_by cs => cs.length

/-- The greatest depth of a pattern. -/
def depthLimit : Nat := 250

/-- Whether a pattern can end here. -/
def State.isComplete (s : State) : Bool :=
  s.outer.isEmpty && s.brackets.isEmpty && s.group.depth ≤ depthLimit

end Pattern

/-- Whether a text is a pattern. -/
def isPattern (cs : List Char) : Bool := (Pattern.read {} cs).any Pattern.State.isComplete

end Ls8.Text
