import Ls8.Proofs.History

/-!
# Tracing makes no difference

A machine with the switch for tracing on shows its state before every step. It does nothing else that
it would not do with the switch off: two machines that differ in the switch alone answer every call
alike, print the same, log the same, and still differ in the switch alone.

Two sessions are `Alike` if they are the same but for the switch and the trace lines. An action is
`Blind` if it ends alike in sessions that are alike; this is shown part by part, as frames are.

Main results:

* `blind_step`, `blind_run`, `blind_perform` — the switch makes no difference to a step, a run, an
  operation.
* `performAll_alike` — nor does it to a history.
-/

namespace Ls8

variable {ε α β : Type}

/-! ## The same but for tracing -/

/-- The machine with the switch for tracing set to the given value. -/
def Machine.withTracing (m : Machine) (value : Bool) : Machine := { m with tracing := value }

/-- Two sessions that are the same but for the switch for tracing and the trace lines. -/
structure Alike (s u : Session) : Prop where
  machine : s.machine.withTracing false = u.machine.withTracing false
  output  : s.output = u.output
  events  : s.events = u.events

/-- Two actions end with the same value or the same failure, in sessions that are alike. -/
inductive EndsAlike : EStateM.Result ε Session α → EStateM.Result ε Session α → Prop
  | ok (a : α) {s u : Session} (same : Alike s u) : EndsAlike (.ok a s) (.ok a u)
  | error (e : ε) {s u : Session} (same : Alike s u) : EndsAlike (.error e s) (.error e u)

namespace EndsAlike

variable {s : Session} {r : EStateM.Result ε Session α}

theorem exists_ok {a : α} (h : EndsAlike (.ok a s) r) : ∃ u, r = .ok a u ∧ Alike s u := by
  cases h with
  | ok _ same => exact ⟨_, rfl, same⟩

theorem exists_error {e : ε} (h : EndsAlike (.error e s) r) : ∃ u, r = .error e u ∧ Alike s u := by
  cases h with
  | error _ same => exact ⟨_, rfl, same⟩

end EndsAlike

/-- Whether tracing is on makes no difference to how the action ends. -/
def Blind (x : EStateM ε Session α) : Prop :=
  ∀ ⦃s u : Session⦄, Alike s u → EndsAlike (x s) (x u)

namespace Alike

variable {s u : Session}

/-- Of machines that are the same but for the switch, what does not depend on it is the same. -/
theorem of_machine (h : Alike s u) {f : Machine → α} (hf : ∀ m, f (m.withTracing false) = f m) :
    f s.machine = f u.machine := by
  rw [← hf, h.machine, hf]

theorem change (h : Alike s u) {f : Machine → Machine}
    (hf : ∀ m, (f (m.withTracing false)).withTracing false = (f m).withTracing false) :
    Alike { s with machine := f s.machine } { u with machine := f u.machine } :=
  ⟨h.of_machine (f := fun m => (f m).withTracing false) hf, h.output, h.events⟩

theorem note (h : Alike s u) (e : Event) : Alike (s.note (.event e)) (u.note (.event e)) := by
  refine ⟨h.machine, h.output, ?_⟩
  rw [Session.events_note_event, Session.events_note_event, h.events]

/-- Trace lines are no events. -/
theorem traced (h : Alike s u) : Alike s.traced u.traced := by
  refine ⟨?_, ?_, ?_⟩
  · rw [s.traced_machine, u.traced_machine, h.machine]
  · rw [s.traced_output, u.traced_output, h.output]
  · rw [s.traced_events, u.traced_events, h.events]

theorem redirect (h : Alike s u) (k : Sink) : Alike { s with output := k } { u with output := k } :=
  ⟨h.machine, rfl, h.events⟩

end Alike

/-! ## Parts of actions -/

namespace Blind

theorem pure (a : α) : Blind (Pure.pure a : EStateM ε Session α) := fun _ _ h => .ok a h

theorem bind {x : EStateM ε Session α} {f : α → EStateM ε Session β} (hx : Blind x)
    (hf : ∀ a, Blind (f a)) : Blind (x >>= f) := by
  intro s u h
  have hfirst := hx h
  simp only [Bind.bind, EStateM.bind]
  cases hs : x s with
  | ok a t =>
    -- the second part begins with the same value in sessions that are still alike
    rw [hs] at hfirst
    obtain ⟨t', hu, same⟩ := hfirst.exists_ok
    rw [hu]
    exact hf a same
  | error e t =>
    rw [hs] at hfirst
    obtain ⟨t', hu, same⟩ := hfirst.exists_error
    rw [hu]
    exact .error e same

theorem map (g : α → β) {x : EStateM ε Session α} (h : Blind x) : Blind (g <$> x) := by
  rw [map_eq_pure_bind]
  exact h.bind fun a => .pure (g a)

theorem toTask {x : Action α} (h : Blind x) : Blind x.toTask := by
  intro s u hsu
  have hx := h hsu
  rw [Action.toTask_eq, Action.toTask_eq]
  cases hs : x s with
  | ok a t =>
    rw [hs] at hx
    obtain ⟨t', hu, same⟩ := hx.exists_ok
    rw [hu]
    exact .ok a same
  | error e t =>
    rw [hs] at hx
    obtain ⟨t', hu, same⟩ := hx.exists_error
    rw [hu]
    exact .error (Failure.fault e) same

theorem quietly {x : Action Unit} (h : Blind x) : Blind x.quietly := h.toTask.map _

theorem answering (answer : α → Answer) {x : Action α} (h : Blind x) :
    Blind (x.answering answer) :=
  h.toTask.map _

theorem ask {f : Machine → α} (hf : ∀ m, f (m.withTracing false) = f m) :
    Blind (Action.ask f) := by
  intro s u h
  rw [Action.ask, Action.ask, h.of_machine hf]
  exact .ok _ h

theorem attempt {f : Machine → Except Fault α} (hf : ∀ m, f (m.withTracing false) = f m) :
    Blind (Action.attempt f) := by
  intro s u h
  unfold Action.attempt
  rw [h.of_machine hf]
  cases f u.machine with
  | ok a => exact .ok a h
  | error e => exact .error e h

theorem change {f : Machine → Machine}
    (hf : ∀ m, (f (m.withTracing false)).withTracing false = (f m).withTracing false) :
    Blind (Action.change f) :=
  fun _ _ h => .ok () (h.change hf)

/-- A part of the machine is changed, if that can be done, and put back. -/
theorem update {δ : Type} {part : Machine → Except Fault δ} {put : Machine → δ → Machine}
    (hpart : ∀ m, part (m.withTracing false) = part m)
    (hput : ∀ m d, (put (m.withTracing false) d).withTracing false = (put m d).withTracing false) :
    Blind (Action.update fun m => (part m).map (put m)) := by
  intro s u h
  simp only [Action.update]
  rw [h.of_machine hpart]
  cases part u.machine with
  | ok d => exact .ok () (h.change (f := fun m => put m d) fun m => hput m d)
  | error e => exact .error e h

theorem notify (e : Event) : Blind (Action.notify (.event e)) := fun _ _ h => .ok () (h.note e)

theorem logAll (events : List Event) : Blind (Action.logAll events) := by
  intro s u h
  refine .ok () ⟨h.machine, h.output, ?_⟩
  have hevents := h.events
  simp only [Session.events, List.filterMap_append] at hevents ⊢
  rw [hevents]

theorem write (text : List Char) : Blind (Action.write text) := by
  intro s u h
  unfold Action.write
  rw [h.output]
  split
  · exact .ok () ⟨h.machine, rfl, h.events⟩
  · exact .error _ ⟨h.machine, rfl, h.events⟩

end Blind

namespace Machine

/-! ## Execution -/

theorem blind_alu (op : Arithmetic) (regA regB : UInt8) : Blind (alu op regA regB) :=
  (Blind.attempt fun _ => rfl).bind fun _ => (Blind.attempt fun _ => rfl).bind fun _ =>
    Blind.update (fun _ => rfl) fun _ _ => rfl

theorem blind_execute (inst : Instruction) : Blind (execute inst) := by
  cases inst with
  | halt => exact Blind.change fun _ => rfl
  | loadImmediate reg value =>
    refine Blind.bind ?_ fun _ => Blind.change fun _ => rfl
    exact Blind.update (fun _ => rfl) fun _ _ => rfl
  | print reg =>
    refine Blind.bind (Blind.attempt fun _ => rfl) fun v => ?_
    exact (Blind.write _).bind fun _ => Blind.change fun _ => rfl
  | multiply regA regB => exact (blind_alu .mul regA regB).bind fun _ => Blind.change fun _ => rfl
  | push reg =>
    refine Blind.bind (Blind.attempt fun _ => rfl) fun v => ?_
    refine Blind.bind ?_ fun _ => Blind.change fun _ => rfl
    refine (Blind.ask fun _ => rfl).bind fun sp => (Blind.change fun _ => rfl).bind fun _ => ?_
    exact Blind.update (fun _ => rfl) fun _ _ => rfl
  | pop reg =>
    refine Blind.bind ?_ fun _ => Blind.change fun _ => rfl
    refine (Blind.attempt fun _ => rfl).bind fun v => ?_
    refine Blind.bind ?_ fun _ => Blind.change fun _ => rfl
    exact Blind.update (fun _ => rfl) fun _ _ => rfl

/-- A trace line is the only thing in which the switch shows. -/
theorem blind_traceState : Blind traceState := by
  intro s u h
  rw [traceState_eq, traceState_eq]
  exact .ok () h.traced

theorem blind_step : Blind step := by
  refine blind_traceState.bind fun _ => (Blind.attempt fun _ => rfl).bind fun inst => ?_
  refine (Blind.ask fun _ => rfl).bind fun pc => (Blind.notify _).bind fun _ => ?_
  exact (blind_execute inst).bind fun _ => (Blind.change fun _ => rfl).bind fun _ =>
    Blind.ask fun _ => rfl

theorem blind_runOn : Blind runOn := by
  intro s u h
  -- round by round; the rounds of the one run are those of the other
  fun_induction runOn s generalizing u with
  | case1 s f s' hs =>
    have hstep := blind_step h
    rw [hs] at hstep
    obtain ⟨u', hu, same⟩ := hstep.exists_error
    rw [runOn_eq, hu]
    exact .error f same
  | case2 s s' hs =>
    have hstep := blind_step h
    rw [hs] at hstep
    obtain ⟨u', hu, same⟩ := hstep.exists_ok
    rw [runOn_eq, hu, same.of_machine (f := (·.statistics.retired)) fun _ => rfl]
    exact Blind.notify _ same
  | case3 s s' hs ih =>
    have hstep := blind_step h
    rw [hs] at hstep
    obtain ⟨u', hu, same⟩ := hstep.exists_ok
    rw [runOn_eq u, hu]
    exact ih same

theorem blind_run : Blind run := Blind.bind (Blind.change fun _ => rfl) fun _ => blind_runOn

/-! ## Loading -/

theorem blind_load (image : List UInt8) : Blind (load image) :=
  Blind.bind (Blind.update (fun _ => rfl) fun _ _ => rfl) fun _ => Blind.notify _

theorem blind_logAll_load (events : List Event) (image : List UInt8) :
    Blind (do
      Action.logAll events
      load image
      return image.length : Action Nat) :=
  (Blind.logAll events).bind fun _ => (blind_load image).bind fun _ => .pure image.length

theorem blind_loadFile (files : Files) (path : String) : Blind (loadFile files path) := by
  intro s u h
  unfold loadFile
  cases Program.ofFile files path with
  | error f => exact .error f h
  | ok program => exact (blind_logAll_load (program.fileEvents path) program.image).toTask h

end Machine

namespace Operation

open Ls8.Machine

/-- The switch makes no difference to any operation, not even to those that set it. -/
theorem blind_perform (files : Files) (op : Operation) : Blind (op.perform files) := by
  cases op with
  | load image => exact (blind_load image).quietly
  | loadText source =>
    exact (blind_logAll_load (Program.parse source).skipEvents _).answering _
  | loadFile path => exact (blind_loadFile files path).map _
  | step => exact blind_step.answering _
  | run => exact blind_run.quietly
  | execute inst => exact (blind_execute inst).quietly
  | alu name regA regB =>
    exact ((Blind.attempt fun _ => rfl).bind fun op => blind_alu op regA regB).quietly
  | poke | setRegister => exact (Blind.update (fun _ => rfl) fun _ _ => rfl).quietly
  | peek | getRegister | decode => exact (Blind.attempt fun _ => rfl).answering _
  | setSp | setPc | setTracing | setHaltResetsPc | reset | resetStatistics =>
    exact (Blind.change fun _ => rfl).quietly
  | sp | isHalted | traceLine | dump | report | depth | listing =>
    exact (Blind.ask fun _ => rfl).answering _

end Operation

/-! ## Histories -/

/-- What is seen of a call: the answer or the failure, the stream behind it, and the log so far. -/
structure Call.Report where
  answer : Except Failure Answer
  stream : Sink
  log    : List Event

namespace Call

def report (s : Session) (c : Call) : Report :=
  match c.operation.perform c.files { s with output := c.stream } with
  | .ok a t => ⟨.ok a, t.output, t.events⟩
  | .error e t => ⟨.error e, t.output, t.events⟩

theorem perform_alike {s u : Session} (h : Alike s u) (c : Call) :
    c.report s = c.report u ∧ Alike (c.perform s) (c.perform u) := by
  have hends := Operation.blind_perform c.files c.operation (h.redirect c.stream)
  unfold report perform Operation.next
  generalize c.operation.perform c.files { s with output := c.stream } = r at hends ⊢
  generalize c.operation.perform c.files { u with output := c.stream } = r' at hends ⊢
  cases hends with
  | ok a same => exact ⟨by simp only [same.output, same.events], same⟩
  | error e same => exact ⟨by simp only [same.output, same.events], same⟩

end Call

/-- The reports of a history of calls, in order. -/
def Session.reports (s : Session) : List Call → List Call.Report
  | [] => []
  | c :: calls => c.report s :: (c.perform s).reports calls

variable {s u : Session}

theorem performAll_alike (h : Alike s u) (calls : List Call) :
    s.reports calls = u.reports calls ∧ Alike (s.performAll calls) (u.performAll calls) := by
  induction calls generalizing s u with
  | nil => exact ⟨rfl, h⟩
  | cons c calls ih =>
    obtain ⟨hreport, hnext⟩ := c.perform_alike h
    obtain ⟨hreports, hend⟩ := ih hnext
    refine ⟨?_, hend⟩
    rw [Session.reports, Session.reports, hreport, hreports]

end Ls8
