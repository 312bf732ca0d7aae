import Ls8.Event
import Ls8.Machine
import Ls8.Sink

/-!
# Sessions

A machine at work, with everything it writes: the output stream, and the notices that go to the
diagnostics, which are trace lines and log events in the order in which they came. An action takes
a session to the next one and ends with a result or a fault; after a fault the session is the one in
which the fault arose, so what was done before stays done.

* `bind_eq_ok_iff` — an action in two parts succeeds if both do, one after the other.
* `bind_eq_error_iff` — it faults if the first part does, or the second part after the first.
-/

namespace Ls8

/-- A line of the diagnostics. -/
inductive Notice where
  /-- The state before an instruction. -/
  | trace (line : String)
  | event (e : Event)
  deriving DecidableEq

/-- A machine and what it has written. -/
structure Session where
  machine : Machine
  output : Sink := {}
  notices : List Notice := []
  deriving DecidableEq

/-- Something that a machine does. -/
abbrev Action (α : Type) := EStateM Fault Session α

namespace Session

/-- The trace lines among the notices. -/
def traceLines (s : Session) : List String :=
  s.notices.filterMap fun
    | .trace line => some line
    | .event _ => none

/-- The log events among the notices. -/
def events (s : Session) : List Event :=
  s.notices.filterMap fun
    | .trace _ => none
    | .event e => some e

/-- The session with one more notice. -/
def note (s : Session) (n : Notice) : Session := { s with notices := s.notices ++ [n] }

end Session

namespace Action

variable {α : Type}

/-- Looks at the machine. -/
def ask (f : Machine → α) : Action α := fun s => .ok (f s.machine) s

/-- Looks for something in the machine that may not be there. -/
def attempt (f : Machine → Except Fault α) : Action α := fun s =>
  match f s.machine with
  | .ok a => .ok a s
  | .error e => .error e s

/-- Changes the machine. -/
def change (f : Machine → Machine) : Action Unit := fun s =>
  .ok () { s with machine := f s.machine }

/-- Changes the machine if that can be done. -/
def update (f : Machine → Except Fault Machine) : Action Unit := fun s =>
  match f s.machine with
  | .ok m => .ok () { s with machine := m }
  | .error e => .error e s

/-- Adds a notice. -/
def notify (n : Notice) : Action Unit := fun s => .ok () (s.note n)

/-- Writes to the output stream; what there is no room for is refused. -/
def write (text : List Char) : Action Unit := fun s =>
  if s.output.hasRoomFor text then .ok () { s with output := s.output.write text }
  else .error .outputRefused { s with output := s.output.write text }

/-! ## How actions end -/

variable {β : Type} {s s' : Session}

theorem bind_eq_ok_iff {x : Action α} {f : α → Action β} {b : β} :
    (x >>= f) s = .ok b s' ↔ ∃ a s₁, x s = .ok a s₁ ∧ f a s₁ = .ok b s' := by
  simp only [bind, EStateM.bind]
  cases x s <;> simp [and_assoc]

theorem bind_eq_error_iff {x : Action α} {f : α → Action β} {e : Fault} :
    (x >>= f) s = .error e s' ↔
      x s = .error e s' ∨ ∃ a s₁, x s = .ok a s₁ ∧ f a s₁ = .error e s' := by
  simp only [bind, EStateM.bind]
  cases x s <;> simp [and_assoc]

theorem ask_eq_ok_iff {f : Machine → α} {a : α} :
    ask f s = .ok a s' ↔ a = f s.machine ∧ s' = s := by
  simp [ask, eq_comm]

theorem attempt_eq_ok_iff {f : Machine → Except Fault α} {a : α} :
    attempt f s = .ok a s' ↔ f s.machine = .ok a ∧ s' = s := by
  unfold attempt
  split <;> simp_all [eq_comm]

theorem attempt_eq_error_iff {f : Machine → Except Fault α} {e : Fault} :
    attempt f s = .error e s' ↔ f s.machine = .error e ∧ s' = s := by
  unfold attempt
  split <;> simp_all [eq_comm]

theorem change_eq_ok_iff {f : Machine → Machine} {u : Unit} :
    change f s = .ok u s' ↔ s' = { s with machine := f s.machine } := by
  simp [change, eq_comm]

theorem update_eq_ok_iff {f : Machine → Except Fault Machine} {u : Unit} :
    update f s = .ok u s' ↔ ∃ m, f s.machine = .ok m ∧ s' = { s with machine := m } := by
  unfold update
  split <;> simp_all [eq_comm]

theorem update_eq_error_iff {f : Machine → Except Fault Machine} {e : Fault} :
    update f s = .error e s' ↔ f s.machine = .error e ∧ s' = s := by
  unfold update
  split <;> simp_all [eq_comm]

theorem notify_eq_ok_iff {n : Notice} {u : Unit} : notify n s = .ok u s' ↔ s' = s.note n := by
  simp [notify, eq_comm]

theorem write_eq_ok_iff {text : List Char} {u : Unit} :
    write text s = .ok u s' ↔
      s.output.hasRoomFor text = true ∧ s' = { s with output := s.output.write text } := by
  unfold write
  split
  next h => simp [h, eq_comm]
  next h => simp [h]

theorem write_eq_error_iff {text : List Char} {e : Fault} :
    write text s = .error e s' ↔
      s.output.hasRoomFor text = false ∧ e = .outputRefused ∧
        s' = { s with output := s.output.write text } := by
  unfold write
  split
  next h => simp [h]
  next h => simp [h, eq_comm]

end Action

end Ls8
