import Ls8.CommandLine.Command

/-!
# The program

Reads the arguments, the two files they name and the log setting, and writes what the command
leaves behind. A command line that means nothing is answered with the usage.
-/

namespace Ls8

/-- What a code of the system says about a file; the sign of the code does not matter. -/
def ReadError.ofCode? (code : UInt32) : Option ReadError :=
  match min code (0 - code) with
  | 2 => some .missing
  | 13 => some .permissionDenied
  | 20 => some .notDirectory
  | 21 => some .isDirectory
  | 36 => some .nameTooLong
  | _ => none

/-- Why the system could not read a file. -/
def ReadError.ofSystem (e : IO.Error) : ReadError :=
  match e with
  | .noFileOrDirectory _ code _ | .permissionDenied _ code _ | .inappropriateType _ code _
  | .invalidArgument _ code _ => (ofCode? code).getD (.other (toString e))
  | _ => .other (toString e)

/-- Reads a file. -/
def readPath (path : String) : IO (Except ReadError ByteArray) := do
  if path.contains '\x00' then return .error .nulInName
  try
    return .ok (← IO.FS.readBinFile path)
  catch e => return .error (.ofSystem e)

/-- Does what the options ask for; the answer is the exit code. -/
def runWith (options : Options) : IO UInt32 := do
  let configBytes ← options.config.mapM readPath
  let programBytes ← readPath options.program
  let files : Files := fun path =>
    if some path = options.config then configBytes.getD (.error .missing)
    else if path = options.program then programBytes
    else .error .missing
  let shown := Command.shown files options (← IO.getEnv "RUST_LOG")
  IO.print shown.output
  IO.eprint shown.diagnostics
  return shown.exitCode.toUInt32

end Ls8

/-- The program; the answer is the exit code. -/
def main (args : List String) : IO UInt32 := do
  match Ls8.Arguments.parse args with
  | .error _ =>
    IO.eprintln Ls8.Command.usage
    return 2
  | .ok .version =>
    IO.println Ls8.Command.version
    return 0
  | .ok .help =>
    IO.println Ls8.Command.usage
    return 0
  | .ok (.run options) => Ls8.runWith options
