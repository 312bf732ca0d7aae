import Ls8.Config.Document
import Ls8.Failure
import Ls8.Machine.Session

/-!
# Loading

Bringing configurations and programs from files, and programs into the memory of a machine. What a
program text holds besides bytes is logged when it is read, and the image when it is in memory.
-/

namespace Ls8

/-- Reads a configuration file. -/
def Config.ofFile (files : Files) (path : String) : Except Failure Config := do
  let text ← (files.readText path).mapError (.unreadable path)
  (Config.ofJson text).mapError .malformedConfig

namespace Program

/-- Reads a program file. -/
def ofFile (files : Files) (path : String) : Except Failure Program := do
  let text ← (files.readText path).mapError (.unreadable path)
  return parse text

/-- What is logged when a program text was read. -/
def skipEvents (p : Program) : List Event := p.skipped.map .lineSkipped

/-- What is logged when a program file was read. -/
def fileEvents (p : Program) (path : String) : List Event :=
  p.skipEvents ++ [.programParsed path p.image.length]

end Program

/-- Something that a machine does, or a file on its way to the machine makes fail. -/
abbrev Task (α : Type) := EStateM Failure Session α

namespace Action

/-- An action as a task. -/
def toTask {α : Type} (x : Action α) : Task α := EStateM.adaptExcept .fault x

theorem toTask_eq {α : Type} (x : Action α) (s : Session) :
    x.toTask s =
      match x s with
      | .ok a s' => .ok a s'
      | .error e s' => .error (.fault e) s' := by
  unfold toTask EStateM.adaptExcept
  cases x s <;> rfl

/-- Logs events, in order. -/
def logAll (events : List Event) : Action Unit := fun s =>
  .ok () { s with notices := s.notices ++ events.map .event }

end Action

namespace Machine

open Ls8.Action

/-- Copies an image into memory. -/
def load (image : List UInt8) : Action Unit := do
  update (·.loadImage image)
  notify (.event (.programLoaded image.length))

/-- Reads a program text and loads it; the answer is the count of its bytes. -/
def loadText (source : String) : Action Nat := do
  let program := Program.parse source
  logAll program.skipEvents
  load program.image
  return program.image.length

/-- Reads a program file and loads it; the answer is the count of its bytes. -/
def loadFile (files : Files) (path : String) : Task Nat := fun s =>
  match Program.ofFile files path with
  | .error f => .error f s
  | .ok program =>
    (do
      logAll (program.fileEvents path)
      load program.image
      return program.image.length : Action Nat).toTask s

end Machine

end Ls8
