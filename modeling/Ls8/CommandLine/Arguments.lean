/-!
# Command line arguments

The command takes the path of a program, three switches and the path of a configuration. Arguments
are read from left to right and the first fault decides; asking for the version or for help answers
at once. A switch is given at most once, and so is every path.
-/

namespace Ls8

/-- What the command is to do with a program. -/
structure Options where
  program : String
  /-- The path of a configuration file. -/
  config : Option String := none
  /-- Write a trace line before every instruction. -/
  trace : Bool := false
  /-- Write the statistics behind a run. -/
  stats : Bool := false
  /-- Write the listing of the program and do not run it. -/
  disasm : Bool := false
  deriving DecidableEq

/-- What the command is asked for. -/
inductive Request where
  | run (options : Options)
  | version
  | help
  deriving DecidableEq

/-- Why a command line means nothing. -/
inductive UsageError where
  | unknownArgument (argument : String)
  | repeatedArgument (name : String)
  | missingValue (name : String)
  | unexpectedValue (name : String)
  | emptyValue (name : String)
  | missingProgram
  deriving DecidableEq

/-- A switch of the command. -/
inductive Switch where
  | trace
  | stats
  | disasm
  deriving DecidableEq

/-- What an option does. -/
inductive OptionKind where
  | switch (s : Switch)
  | config
  | version
  | help
  deriving DecidableEq

namespace Arguments

/-- The options under their long names. -/
def longOption? : String → Option OptionKind
  | "trace" => some (.switch .trace)
  | "stats" => some (.switch .stats)
  | "disasm" => some (.switch .disasm)
  | "config" => some .config
  | "version" => some .version
  | "help" => some .help
  | _ => none

/-- The options under their letters. -/
def shortOption? : Char → Option OptionKind
  | 't' => some (.switch .trace)
  | 's' => some (.switch .stats)
  | 'd' => some (.switch .disasm)
  | 'c' => some .config
  | 'V' => some .version
  | 'h' => some .help
  | _ => none

/-! ## What was given so far -/

/-- The options given so far. -/
structure Draft where
  program : Option String := none
  config : Option String := none
  trace : Bool := false
  stats : Bool := false
  disasm : Bool := false
  deriving DecidableEq

namespace Draft

/-- Gives a switch, which must not have been given. -/
def turnOn (d : Draft) : Switch → Except UsageError Draft
  | .trace => if d.trace then throw (.repeatedArgument "trace") else return { d with trace := true }
  | .stats => if d.stats then throw (.repeatedArgument "stats") else return { d with stats := true }
  | .disasm =>
    if d.disasm then throw (.repeatedArgument "disasm") else return { d with disasm := true }

/-- Gives the path of the configuration. -/
def setConfig (d : Draft) (path : String) : Except UsageError Draft :=
  if d.config.isSome then throw (.repeatedArgument "config")
  else if path.isEmpty then throw (.emptyValue "config")
  else return { d with config := some path }

/-- Gives the path of the program. -/
def setProgram (d : Draft) (path : String) : Except UsageError Draft :=
  if d.program.isSome then throw (.unknownArgument path)
  else if path.isEmpty then throw (.emptyValue "program")
  else return { d with program := some path }

/-- The request of a command line that ends here. -/
def finish (d : Draft) : Except UsageError Request :=
  match d.program with
  | none => throw .missingProgram
  | some program =>
    return .run
      { program, config := d.config, trace := d.trace, stats := d.stats, disasm := d.disasm }

end Draft

/-! ## One argument -/

/-- What an argument leads to. -/
inductive Outcome where
  | goOn (d : Draft)
  /-- The next argument is the path of the configuration. -/
  | needConfig (d : Draft)
  | answer (r : Request)

/-- Reads letters behind a single dash; the letter of an option with a value takes the rest. -/
def letters (d : Draft) : List Char → Except UsageError Outcome
  | [] => return .goOn d
  | c :: rest =>
    match shortOption? c with
    | none => throw (.unknownArgument (String.ofList [c]))
    | some .version => return .answer .version
    | some .help => return .answer .help
    | some (.switch s) => do letters (← d.turnOn s) rest
    | some .config => do
      if rest.isEmpty then return .needConfig d
      let value := if rest.head? = some '=' then rest.tail else rest
      return .goOn (← d.setConfig (String.ofList value))

/-- Reads the word behind two dashes, and the value behind its equals sign if there is one. -/
def word (d : Draft) (text : List Char) : Except UsageError Outcome := do
  let name := String.ofList (text.takeWhile (· ≠ '='))
  let value := (text.dropWhile (· ≠ '=')).tail
  let hasValue := text.contains '='
  match longOption? name with
  | none => throw (.unknownArgument name)
  | some .config =>
    if hasValue then return .goOn (← d.setConfig (String.ofList value)) else return .needConfig d
  | some kind =>
    if hasValue then throw (.unexpectedValue name)
    match kind with
    | .switch s => return .goOn (← d.turnOn s)
    | .version => return .answer .version
    | _ => return .answer .help

/-- Reads an argument that may be an option. -/
def argument (d : Draft) (arg : String) : Except UsageError Outcome :=
  match arg.toList with
  | '-' :: '-' :: text => word d text
  | '-' :: c :: rest => letters d (c :: rest)
  | _ => return .goOn (← d.setProgram arg)

/-- Whether an argument can be the value of the option before it. -/
def isValue (arg : String) : Bool := arg == "-" || arg.toList.head? != some '-'

/-! ## All arguments -/

/-- Reads arguments none of which is an option. -/
def paths (d : Draft) : List String → Except UsageError Request
  | [] => d.finish
  | arg :: rest => do paths (← d.setProgram arg) rest

/-- Reads arguments; two dashes alone end the options. -/
def read (d : Draft) : List String → Except UsageError Request
  | [] => d.finish
  | arg :: rest => do
    if arg = "--" then paths d rest
    else
      match ← argument d arg with
      | .answer r => return r
      | .goOn d => read d rest
      | .needConfig d =>
        match rest with
        | [] => throw (.missingValue "config")
        | value :: rest =>
          if isValue value then read (← d.setConfig value) rest
          else throw (.missingValue "config")

/-- Reads a command line. -/
def parse (args : List String) : Except UsageError Request := read {} args

end Arguments

end Ls8
