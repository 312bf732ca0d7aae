import Ls8.Instruction
import Ls8.Program

/-!
# The log

What a machine and its loader report while they work. An event has a level, a message and named
fields; which events are shown is decided elsewhere, from the level and the component.
-/

namespace Ls8

/-- How grave an event is, from the gravest down. -/
inductive Level where
  | error
  | warn
  | info
  | debug
  | trace
  deriving DecidableEq

namespace Level

/-- Every level, once. -/
def all : List Level := [error, warn, info, debug, trace]

/-- The upper-case name of a level. -/
def name : Level → String
  | error => "ERROR"
  | warn => "WARN"
  | info => "INFO"
  | debug => "DEBUG"
  | trace => "TRACE"

/-- The place of a level, 1 for the gravest. -/
def rank : Level → Nat
  | error => 1
  | warn => 2
  | info => 3
  | debug => 4
  | trace => 5

end Level

/-- The value of a field of an event. -/
inductive Event.Value where
  | number (n : Nat)
  /-- Text that a log line shows in quotes. -/
  | quoted (s : String)
  /-- Text that a log line shows as it is. -/
  | bare (s : String)
  deriving DecidableEq

/-- Something worth reporting. -/
inductive Event where
  /-- A line of a program text was left out. -/
  | lineSkipped (line : SkippedLine)
  /-- A program file was read. -/
  | programParsed (path : String) (bytes : Nat)
  /-- An image was copied into memory. -/
  | programLoaded (bytes : Nat)
  /-- An instruction was decoded and is about to be executed. -/
  | decoded (pc : Nat) (inst : Instruction)
  /-- A run ended by `HLT`, with so many instructions retired in all. -/
  | halted (retired : Nat)
  deriving DecidableEq

namespace Event

/-- The level of an event. -/
def level : Event → Level
  | lineSkipped _ | programParsed _ _ | programLoaded _ => .debug
  | decoded _ _ => .trace
  | halted _ => .info

/-- The message of an event, without its fields. -/
def message : Event → String
  | lineSkipped line => "skipping malformed program line: " ++ line.cause.message
  | programParsed _ _ => "parsed program"
  | programLoaded _ => "program loaded"
  | decoded _ inst => inst.text
  | halted _ => "halted"

/-- The fields of an event, in order. -/
def fields : Event → List (String × Value)
  | lineSkipped line => [("line", .number line.number), ("text", .quoted line.content)]
  | programParsed path bytes => [("path", .bare path), ("bytes", .number bytes)]
  | programLoaded bytes => [("bytes", .number bytes)]
  | decoded pc _ => [("pc", .number pc)]
  | halted retired => [("instructions", .number retired)]

/-- The component that an event comes from, as log filters name it. -/
def component : Event → String
  | lineSkipped _ | programParsed _ _ => "ls8_core::sim::loader"
  | programLoaded _ => "ls8_core::core::cpu"
  | decoded _ _ | halted _ => "ls8_core::core::cpu::execution"

end Event

end Ls8
