import Ls8.Fault
import Ls8.Files
import Ls8.Json.Failure

/-!
# Failures

Everything that can end a command: a fault of the machine, a file that cannot be read, or a
configuration that is not one.
-/

namespace Ls8

/-- Why a command ended. -/
inductive Failure where
  | fault (f : Fault)
  | unreadable (path : String) (cause : ReadError)
  | malformedConfig (error : Json.Error)

/-- The sentence that reports a failure. -/
def Failure.message : Failure → String
  | fault f => f.message
  | unreadable path cause => "could not read '" ++ path ++ "': " ++ cause.message
  | malformedConfig error => "invalid configuration: " ++ error.message

end Ls8
