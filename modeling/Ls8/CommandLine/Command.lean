import Ls8.CommandLine.Arguments
import Ls8.CommandLine.LogFilter
import Ls8.Listing
import Ls8.Machine.Execution
import Ls8.Machine.Loading
import Ls8.Statistics.Report

/-!
# The command

What the command does with its options: it makes a machine from the configuration, loads the program
and lists or runs it. What it writes is the output, the notices of the machine as the log filter
lets them through, and behind them a report of the failure or the statistics.
-/

namespace Ls8

/-- What a command leaves behind. -/
structure Command.Result where
  output : String
  notices : List Notice
  /-- What is written to the diagnostics behind the notices. -/
  report : String
  exitCode : Nat

namespace Command

/-- The name and version of the command. -/
def version : String := "ls8 0.3.0"

/-- How the command is used. -/
def usage : String :=
  "Run an LS-8 program\n\nUsage: ls8 [OPTIONS] <PROGRAM>\n\nArguments:\n"
    ++ "  <PROGRAM>  Program file to load\n\nOptions:\n"
    ++ "  -c, --config <CONFIG>  JSON configuration file\n"
    ++ "  -t, --trace            Print a trace line before every instruction\n"
    ++ "  -s, --stats            Print execution statistics after the run\n"
    ++ "  -d, --disasm           Print a disassembly of the program instead of running it\n"
    ++ "  -h, --help             Print help\n  -V, --version          Print version"

/-- The last words of a command that failed. -/
def fatal (f : Failure) : String := "\n[!] FATAL: " ++ f.message ++ "\n"

/-- The configuration of the options: that of the file, with tracing on if a switch asks for it. -/
def configOf (files : Files) (o : Options) : Except Failure Config := do
  let config ←
    match o.config with
    | none => pure {}
    | some path => Config.ofFile files path
  let traceInstructions := config.general.traceInstructions || o.trace
  return { config with general := { config.general with traceInstructions } }

/-- The text of a listing, each line ended. -/
def listingText (lines : List Listing.Line) : String :=
  String.join (lines.map fun l => l.text ++ "\n")

/-- What is left behind by a command that failed before it ran or listed anything. -/
def Result.ofFailure (f : Failure) (notices : List Notice) : Result where
  output := ""
  notices := notices
  report := fatal f
  exitCode := 1

/-- Lists or runs the program in the machine of a session, which has so many bytes. -/
def start (o : Options) (s : Session) (bytes : Nat) : Result :=
  if o.disasm then
    { output := listingText (s.machine.memory.listing bytes)
      notices := s.notices
      report := ""
      exitCode := 0 }
  else
    match Machine.run s with
    | .ok _ s' =>
      { output := String.ofList s'.output.written
        notices := s'.notices
        report := if o.stats then s'.machine.statistics.report ++ "\n" else ""
        exitCode := 0 }
    | .error f s' =>
      { output := String.ofList s'.output.written
        notices := s'.notices
        report := s'.machine.dump ++ "\n" ++ fatal (.fault f)
        exitCode := 1 }

/-- What the command does with its options. -/
def run (files : Files) (o : Options) : Result :=
  match configOf files o with
  | .error f => .ofFailure f []
  | .ok config =>
    match Machine.loadFile files o.program { machine := .ofConfig config } with
    | .error f s => .ofFailure f s.notices
    | .ok bytes s => start o s bytes

/-- A notice as a line of the diagnostics, if the filter lets it through. -/
def noticeText (filter : LogFilter) : Notice → String
  | .trace line => line ++ "\n"
  | .event e => if filter.shows e then e.line ++ "\n" else ""

/-- Everything that goes to the diagnostics. -/
def Result.diagnostics (r : Result) (filter : LogFilter) : String :=
  String.join (r.notices.map (noticeText filter)) ++ r.report

/-- What is seen of a command: the text on its two streams, and its exit code. -/
structure Shown where
  output : String
  diagnostics : String
  exitCode : Nat

/-- What is seen of a command with these options under a log setting. -/
def shown (files : Files) (o : Options) (setting : Option String) : Shown :=
  let result := run files o
  { output := result.output
    diagnostics := result.diagnostics (.ofSetting setting o.trace)
    exitCode := result.exitCode }

end Command

end Ls8
