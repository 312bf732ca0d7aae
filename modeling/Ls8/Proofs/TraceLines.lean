import Ls8.Proofs.Tracing

/-!
# Trace lines

With the switch for tracing on, a trace line is shown for every step that is attempted. A step is
attempted by a step and by every round of a run, and not by an instruction executed directly; whether
it succeeds does not matter, since the line is shown before anything is decoded. So the lines of a
history are those of the sessions from which its steps were attempted.

Main results:

* `step_traceLines`, `run_traceLines`, `next_traceLines` — the trace lines of a step, a run, an operation.
* `performAll_traceLines` — the trace lines of a history.
* `tracing_only_observes` — two machines that differ in the switch, over any history.
-/

namespace Ls8

variable {ε α : Type}

/-! ## The line of a step -/

namespace Session

/-- The trace lines that a step from here shows. -/
def traces (s : Session) : List String := if s.machine.tracing then [s.machine.traceLine] else []

theorem traceLines_note_event (s : Session) (e : Event) :
    (s.note (.event e)).traceLines = s.traceLines := by
  simp [traceLines, note, List.filterMap_append]

theorem traced_traceLines (s : Session) : s.traced.traceLines = s.traceLines ++ s.traces := by
  unfold traced traces
  split
  · simp [traceLines, note, List.filterMap_append]
  · exact (List.append_nil _).symm

theorem announce_traceLines (s : Session) (inst : Instruction) :
    (s.announce inst).traceLines = s.traceLines ++ s.traces := by
  rw [announce, traceLines_note_event, traced_traceLines]

end Session

/-! ## Actions that show nothing -/

/-- However the action ends, it showed no trace line. -/
abbrev Untraced (x : EStateM ε Session α) : Prop := Leaves Session.traceLines x

namespace Untraced

theorem attempt (f : Machine → Except Fault α) : Untraced (Action.attempt f) := by
  intro s
  unfold Session.after Action.attempt
  cases f s.machine <;> rfl

theorem update (f : Machine → Except Fault Machine) : Untraced (Action.update f) := by
  intro s
  unfold Session.after Action.update
  cases f s.machine <;> rfl

theorem logAll (events : List Event) : Untraced (Action.logAll events) := by
  intro s
  show Session.traceLines { s with notices := s.notices ++ events.map .event } = s.traceLines
  rw [Session.traceLines, List.filterMap_append, List.filterMap_map]
  refine (congrArg _ (List.filterMap_eq_nil_iff.2 ?_)).trans (List.append_nil _)
  -- each event is passed over
  intro e _
  rfl

end Untraced

namespace Machine

variable {s : Session}

/-- Instructions executed directly show nothing. -/
theorem untraced_execute (inst : Instruction) : Untraced (execute inst) := by
  intro s
  cases hres : execute inst s with
  | ok u t =>
    obtain ⟨-, -, rfl⟩ := execute_eq_ok_iff.1 hres
    rw [Session.after_of_ok hres]
    rfl
  | error f t =>
    rw [Session.after_of_error hres]
    rcases execute_eq_error_iff.1 hres with ⟨_, -, -, rfl⟩ | ⟨-, -, -, rfl⟩
    · rfl
    · rfl

theorem untraced_alu (op : Arithmetic) (regA regB : UInt8) : Untraced (alu op regA regB) :=
  (Untraced.attempt _).bind fun _ => (Untraced.attempt _).bind fun _ => Untraced.update _

theorem untraced_load (image : List UInt8) : Untraced (load image) :=
  (Untraced.update _).bind fun _ s => s.traceLines_note_event _

theorem untraced_logAll_load (events : List Event) (image : List UInt8) :
    Untraced (do
      Action.logAll events
      load image
      return image.length : Action Nat) :=
  (Untraced.logAll events).bind fun _ => (untraced_load image).bind fun _ _ => rfl

theorem untraced_loadFile (files : Files) (path : String) : Untraced (loadFile files path) := by
  intro s
  unfold loadFile Session.after
  cases Program.ofFile files path with
  | error f => rfl
  | ok program => exact (untraced_logAll_load (program.fileEvents path) program.image).toTask s

/-! ## Steps and runs -/

/-- A step shows its trace line before anything else, so also if it fails. -/
theorem step_traceLines (s : Session) : (s.after step).traceLines = s.traceLines ++ s.traces := by
  cases hres : step s with
  | ok r t =>
    obtain ⟨inst, -, -, -, -, rfl⟩ := step_eq_ok_iff.1 hres
    rw [Session.after_of_ok hres]
    exact s.announce_traceLines inst
  | error f t =>
    rw [Session.after_of_error hres]
    rcases step_eq_error_iff.1 hres with ⟨-, rfl⟩ | ⟨inst, -, he⟩
    · exact s.traced_traceLines
    · -- the instruction was reached behind the trace line, and shows none itself
      have hexecute := untraced_execute inst (s.announce inst)
      rw [Session.after_of_error he] at hexecute
      rw [hexecute, s.announce_traceLines]

/-- A run shows the trace line of every session on its course. -/
theorem runOn_traceLines (s : Session) :
    (finalSession (runOn s)).traceLines = s.traceLines ++ (courseFrom s).flatMap Session.traces := by
  fun_induction runOn s with
  | case1 s f s' hs =>
    have hstep := step_traceLines s
    rw [Session.after_of_error hs] at hstep
    rw [courseFrom_of_last (.fault hs), List.flatMap_singleton]
    exact hstep
  | case2 s s' hs =>
    have hstep := step_traceLines s
    rw [Session.after_of_ok hs] at hstep
    rw [courseFrom_of_last (.halt hs), List.flatMap_singleton, ← hstep]
    exact s'.traceLines_note_event _
  | case3 s s' hs ih =>
    have hstep := step_traceLines s
    rw [Session.after_of_ok hs] at hstep
    obtain ⟨inst, hpass, rfl⟩ := step_running_iff.1 hs
    rw [ih, hstep, courseFrom_of_passes hpass, List.flatMap_cons, List.append_assoc]

theorem run_traceLines (s : Session) :
    (finalSession (run s)).traceLines = s.traceLines ++ (course s).flatMap Session.traces :=
  runOn_traceLines s.started

/-- What every step keeps is the same all along the course of a run. -/
theorem view_of_mem_courseFrom {γ : Type} {view : Machine → γ} (h : Keeps view step) {t : Session}
    (ht : t ∈ courseFrom s) : view t.machine = view s.machine := by
  obtain ⟨trail, last, hpath, hlast⟩ := exists_path_last s
  induction hpath using path_induction with
  | nil s =>
    rw [courseFrom_of_last hlast, List.mem_singleton] at ht
    rw [ht]
  | cons s inst trail last hpass hrest ih =>
    rw [courseFrom_of_passes hpass, List.mem_cons] at ht
    have hstep := h s
    rw [Session.after_of_ok (step_running_iff.2 ⟨inst, hpass, rfl⟩)] at hstep
    have hrun : runOn s = runOn (s.retire inst) :=
      runOn_of_path (path_concat (.nil s) hpass)
    rcases ht with rfl | ht
    · rfl
    · exact (ih ht (hrun ▸ hlast)).trans hstep

end Machine

namespace Operation

open Ls8.Machine

/-- Whether an operation sets the switch for tracing. -/
def setsTracing : Operation → Bool
  | setTracing _ => true
  | _ => false

/-- The sessions from which an operation attempts a step, in order. -/
def attempts (s : Session) : Operation → List Session
  | step => [s]
  | run => course s
  | _ => []

theorem settled_tracing : Settled tracing where
  registers _ _ := rfl
  memory _ _ := rfl
  pc _ _ := rfl
  state _ _ := rfl
  statistics _ _ := rfl

theorem keeps_tracing_step : Keeps tracing Machine.step :=
  keeps_step settled_tracing.effect fun _ _ => rfl

theorem keeps_tracing {op : Operation} (h : op.setsTracing = false) (files : Files) :
    Keeps tracing (op.perform files) := by
  cases op with
  | setTracing => cases h
  | setHaltResetsPc value =>
    refine Keeps.quietly (Keeps.change ?_)
    exact fun _ => rfl
  | _ => exact keeps_settled settled_tracing rfl files

theorem untraced_perform {op : Operation} (hstep : op ≠ step) (hrun : op ≠ run) (files : Files) :
    Untraced (op.perform files) := by
  cases op with
  | step => exact absurd rfl hstep
  | run => exact absurd rfl hrun
  | load image => exact (untraced_load image).toTask.map _
  | loadText source =>
    exact (untraced_logAll_load (Program.parse source).skipEvents _).toTask.map _
  | loadFile path => exact (untraced_loadFile files path).map _
  | execute inst => exact (untraced_execute inst).toTask.map _
  | alu name regA regB =>
    exact ((Untraced.attempt _).bind fun op => untraced_alu op regA regB).toTask.map _
  | poke | setRegister => exact (Untraced.update _).toTask.map _
  | peek | getRegister | decode => exact (Untraced.attempt _).toTask.map _
  | _ => exact fun _ => rfl

theorem next_traceLines (files : Files) (s : Session) (op : Operation) :
    (next files s op).traceLines = s.traceLines ++ (op.attempts s).flatMap Session.traces := by
  rw [next_eq_after]
  by_cases hstep : op = step
  · subst hstep
    rw [perform, Session.after_answering, step_traceLines, attempts, List.flatMap_singleton]
  by_cases hrun : op = run
  · subst hrun
    rw [perform, Session.after_quietly, after_run, run_traceLines, attempts]
  · have hnone : op.attempts s = [] := by
      cases op <;> first | rfl | contradiction
    rw [untraced_perform hstep hrun files s, hnone]
    exact (List.append_nil _).symm

theorem tracing_of_mem_attempts {s t : Session} {op : Operation} (h : t ∈ op.attempts s) :
    t.machine.tracing = s.machine.tracing := by
  cases op with
  | step => rw [List.mem_singleton.1 h]
  | run =>
    exact view_of_mem_courseFrom (s := s.started) keeps_tracing_step h
  | _ => cases h

end Operation

/-! ## Histories -/

/-- The sessions from which a history of calls attempts a step, in order. -/
def attemptsOf (s : Session) : List Call → List Session
  | [] => []
  | c :: calls =>
    c.operation.attempts { s with output := c.stream } ++ attemptsOf (c.perform s) calls

variable {calls : List Call}

theorem performAll_traceLines (s : Session) (calls : List Call) :
    (s.performAll calls).traceLines =
      s.traceLines ++ (attemptsOf s calls).flatMap Session.traces := by
  induction calls generalizing s with
  | nil => exact (List.append_nil _).symm
  | cons c calls ih =>
    have hcall : (c.perform s).traceLines = _ :=
      Operation.next_traceLines c.files { s with output := c.stream } c.operation
    rw [Session.performAll, ih, hcall, attemptsOf, List.flatMap_append, List.append_assoc]
    rfl

/-- If no call sets the switch it stays as it is, in every session from which a step is attempted. -/
theorem performAll_tracing (h : ∀ c ∈ calls, c.operation.setsTracing = false) (s : Session) :
    (s.performAll calls).machine.tracing = s.machine.tracing ∧
      ∀ t ∈ attemptsOf s calls, t.machine.tracing = s.machine.tracing := by
  induction calls generalizing s with
  | nil => exact ⟨rfl, fun _ ht => nomatch ht⟩
  | cons c calls ih =>
    have hcall : (c.perform s).machine.tracing = s.machine.tracing := by
      rw [Call.perform, Operation.next_eq_after]
      exact Operation.keeps_tracing (h c (List.mem_cons_self ..)) c.files _
    obtain ⟨hend, hattempts⟩ := ih (fun c hc => h c (List.mem_cons_of_mem _ hc)) (c.perform s)
    refine ⟨hend.trans hcall, ?_⟩
    intro t ht
    rcases List.mem_append.1 ht with hhere | hlater
    · exact Operation.tracing_of_mem_attempts (s := { s with output := c.stream }) hhere
    · exact (hattempts t hlater).trans hcall

/-- With the switch on a step shows one line. -/
theorem flatMap_traces_of_tracing {sessions : List Session} {value : Bool}
    (h : ∀ t ∈ sessions, t.machine.tracing = value) :
    sessions.flatMap Session.traces = if value then sessions.map (·.machine.traceLine) else [] := by
  induction sessions with
  | nil => cases value <;> rfl
  | cons t sessions ih =>
    rw [List.flatMap_cons, ih fun t ht => h t (List.mem_cons_of_mem _ ht), Session.traces,
      h t (List.mem_cons_self ..)]
    cases value <;> rfl

namespace Machine

/--
**Tracing only observes.** Take two machines that differ in the switch for tracing alone, and any
history of calls that do not set it. Call by call the two give the same answer or the same failure,
write the same and log the same; and in the end they differ in the switch alone, which is as it was.

With the switch off nothing is shown. With the switch on one line is shown for every step that is
attempted, by a step or in a run, the failing one included: the trace line of the machine just before
that step.
-/
theorem tracing_only_observes (m : Machine) (calls : List Call)
    (hkept : ∀ c ∈ calls, c.operation.setsTracing = false) :
    let on : Session := { machine := m.withTracing true }
    let off : Session := { machine := m.withTracing false }
    on.reports calls = off.reports calls ∧
    (off.performAll calls).machine.tracing = false ∧
    (on.performAll calls).machine = (off.performAll calls).machine.withTracing true ∧
    (off.performAll calls).traceLines = [] ∧
    (on.performAll calls).traceLines = (attemptsOf on calls).map (·.machine.traceLine) := by
  intro on off
  obtain ⟨hreports, hend⟩ := performAll_alike (s := on) (u := off) ⟨rfl, rfl, rfl⟩ calls
  obtain ⟨hon, honAttempts⟩ := performAll_tracing hkept on
  obtain ⟨hoff, hoffAttempts⟩ := performAll_tracing hkept off
  refine ⟨hreports, hoff, ?_, ?_, ?_⟩
  · -- both are the same machine once the switch is set, and the one has it set already
    calc (on.performAll calls).machine
        = (on.performAll calls).machine.withTracing true := by
          rw [withTracing, ← show _ = true from hon]
      _ = ((on.performAll calls).machine.withTracing false).withTracing true := rfl
      _ = ((off.performAll calls).machine.withTracing false).withTracing true := by
          rw [hend.machine]
      _ = (off.performAll calls).machine.withTracing true := rfl
  · rw [performAll_traceLines, flatMap_traces_of_tracing hoffAttempts]
    rfl
  · rw [performAll_traceLines, flatMap_traces_of_tracing honAttempts]
    rfl

/-- A machine that begins behind a `PRN R0` at the end of its memory. -/
def printsThenStray : Machine :=
  { ofConfig {} with memory := (Memory.zero.load [71, 0, 255]).toOption.getD .zero }

/-- A run that prints and then finds no instruction, on a stream without limit and on one that is full,
an instruction executed directly, and a step that fails as well. -/
def strayCalls : List Call :=
  [{ operation := .run }, { operation := .execute (.push 0) }, { operation := .step },
   { operation := .setPc 0 }, { operation := .run, stream := { room := some 1 } }]

/-- Four steps are attempted, three of them in vain, and each shows a line if the switch is on. -/
theorem tracing_only_observes_stray :
    let on : Session := { machine := printsThenStray.withTracing true }
    let off : Session := { machine := printsThenStray.withTracing false }
    on.reports strayCalls = off.reports strayCalls ∧
    (off.performAll strayCalls).traceLines = [] ∧
    (on.performAll strayCalls).traceLines.length = 4 := by
  intro on off
  have hkept : ∀ c ∈ strayCalls, c.operation.setsTracing = false := by decide
  obtain ⟨hreports, -, -, hoff, hon⟩ := tracing_only_observes printsThenStray strayCalls hkept
  have hattempts : (attemptsOf on strayCalls).length = 4 := by decide +kernel
  refine ⟨hreports, hoff, ?_⟩
  rw [hon, List.length_map, hattempts]

end Machine

end Ls8
