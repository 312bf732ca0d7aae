import Ls8.Listing
import Ls8.Machine.Execution
import Ls8.Machine.Loading
import Ls8.Statistics.Report

/-!
# Operations

Everything that can be asked of a machine from outside, as data, and what a history of such
requests does. An operation answers or fails; the machine goes on from where that leaves it.
-/

namespace Ls8

/-- A request to a machine. -/
inductive Operation where
  | load (image : List UInt8)
  | loadText (source : String)
  | loadFile (path : String)
  | step
  | run
  | execute (inst : Instruction)
  | alu (name : String) (regA regB : UInt8)
  | peek (addr : Nat)
  | poke (addr : Nat) (value : UInt8)
  | getRegister (index : UInt8)
  | setRegister (index value : UInt8)
  | setSp (value : UInt8)
  | setPc (value : Nat)
  | setTracing (value : Bool)
  | setHaltResetsPc (value : Bool)
  | reset
  | resetStatistics
  | sp
  | isHalted
  | traceLine
  | dump
  | report
  | depth
  | decode (addr : Nat)
  | listing (length : Nat)
  deriving DecidableEq

/-- What a request is answered with. -/
inductive Answer where
  | nothing
  | byte (b : UInt8)
  | count (n : Nat)
  | flag (b : Bool)
  | text (s : String)
  | state (r : RunState)
  | instruction (inst : Instruction)
  | lines (ls : List Listing.Line)
  deriving DecidableEq

/-- An action that answers nothing. -/
def Action.quietly (x : Action Unit) : Task Answer := (fun _ => .nothing) <$> x.toTask

/-- An action whose result is the answer. -/
def Action.answering {α : Type} (answer : α → Answer) (x : Action α) : Task Answer :=
  answer <$> x.toTask

namespace Operation

open Ls8.Action

/-- What an operation does. -/
def perform (files : Files) : Operation → Task Answer
  | load image => (Machine.load image).quietly
  | loadText source => (Machine.loadText source).answering .count
  | loadFile path => .count <$> Machine.loadFile files path
  | step => Machine.step.answering .state
  | run => Machine.run.quietly
  | execute inst => (Machine.execute inst).quietly
  | alu name regA regB =>
    quietly do
      let op ← attempt fun _ => Arithmetic.ofName name
      Machine.alu op regA regB
  | peek addr => (attempt (·.memory.read addr)).answering .byte
  | poke addr value => (update (·.writeMemory addr value)).quietly
  | getRegister index => (attempt (·.registers.read index)).answering .byte
  | setRegister index value => (update (·.writeRegister index value)).quietly
  | setSp value => (change (·.setSp value)).quietly
  | setPc value => (change ({ · with pc := value })).quietly
  | setTracing value => (change ({ · with tracing := value })).quietly
  | setHaltResetsPc value => (change ({ · with haltResetsPc := value })).quietly
  | reset => (change Machine.reset).quietly
  | resetStatistics => (change ({ · with statistics := .zero })).quietly
  | sp => (ask Machine.sp).answering .byte
  | isHalted => (ask Machine.isHalted).answering .flag
  | traceLine => (ask Machine.traceLine).answering .text
  | dump => (ask Machine.dump).answering .text
  | report => (ask (·.statistics.report)).answering .text
  | depth => (ask (·.statistics.depth)).answering .count
  | decode addr => (attempt (·.memory.decode addr)).answering .instruction
  | listing length => (ask (·.memory.listing length)).answering .lines

/-- Performs an operation; the answer is dropped. -/
def next (files : Files) (s : Session) (op : Operation) : Session :=
  match op.perform files s with
  | .ok _ s' => s'
  | .error _ s' => s'

/-- The session after a history of operations, failed ones included. -/
def replay (files : Files) (s : Session) (history : List Operation) : Session :=
  history.foldl (next files) s

end Operation

end Ls8
