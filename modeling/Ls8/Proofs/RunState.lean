import Ls8.Proofs.History

/-!
# The run state over a history

A machine is stopped by `HLT`, and set running by being made, by a reset and by the beginning of a run.
Nothing else moves the run state, so at every moment it tells which of these came last. It does not
hold the machine back: a stopped machine can be stepped on, and executes what it finds without being
any less stopped.

A run ends well exactly if the last instruction that it retires is a `HLT`; this is the only one.

Main results:

* `next_state` — what one operation does to the run state.
* `performAll_state` — what a history does to it.
* `run_ok_iff` — a run succeeds exactly if it retires a `HLT` at its end.
* `run_state_protocol` — all histories of a new machine, and what a run and a step may do.
-/

namespace Ls8

/-- What can move the run state of a machine. -/
inductive Milestone where
  | made
  | reset
  /-- A run began. -/
  | started
  /-- A `HLT` was executed. -/
  | stopped
  deriving DecidableEq

namespace Milestone

/-- The run state behind a milestone. -/
def state : Milestone → RunState
  | stopped => .halted
  | _ => .running

/-- The run state behind milestones, one after the other. -/
def stateAfter (r : RunState) (past : List Milestone) : RunState :=
  past.foldl (fun _ e => e.state) r

theorem stateAfter_append (r : RunState) (past more : List Milestone) :
    stateAfter r (past ++ more) = stateAfter (stateAfter r past) more := List.foldl_append

/-- Only the last milestone counts. -/
theorem stateAfter_eq_halted_iff {past : List Milestone} (h : past ≠ []) (r : RunState) :
    stateAfter r past = .halted ↔ past.getLast? = some .stopped := by
  obtain ⟨before, e, rfl⟩ := past.eq_nil_or_concat'.resolve_left h
  rw [stateAfter_append, List.getLast?_concat]
  cases e with
  | stopped => exact iff_of_true rfl rfl
  | made | reset | started =>
    -- such a milestone sets the machine running, and it is not the other
    refine iff_of_false ?_ ?_
    · intro hstate
      cases hstate
    · intro hlast
      cases hlast

/-- The milestones of instructions that were executed. -/
def ofInstructions (insts : List Instruction) : List Milestone :=
  insts.filterMap fun inst => if inst = .halt then some .stopped else none

theorem ofInstructions_append (insts more : List Instruction) :
    ofInstructions (insts ++ more) = ofInstructions insts ++ ofInstructions more :=
  List.filterMap_append

theorem ofInstructions_of_notMem {insts : List Instruction} (h : .halt ∉ insts) :
    ofInstructions insts = [] := by
  rw [ofInstructions, List.filterMap_eq_nil_iff]
  intro inst hinst
  refine if_neg ?_
  rintro rfl
  exact h hinst

end Milestone

namespace Machine

open Ls8.Action Milestone

/-! ## Instructions -/

theorem effect_stateAfter (inst : Instruction) (m : Machine) :
    (m.effect inst).state = stateAfter m.state (ofInstructions [inst]) := by
  by_cases hi : inst = .halt
  · subst hi
    rfl
  · have hnone : ofInstructions [inst] = [] :=
      ofInstructions_of_notMem fun hmem => hi (List.mem_singleton.1 hmem).symm
    rw [effect_state hi, hnone]
    rfl

/-- What is executed to its end when an instruction is executed directly: nothing if it fails. -/
def executed (s : Session) (inst : Instruction) : List Instruction :=
  match execute inst s with
  | .ok _ _ => [inst]
  | .error _ _ => []

theorem state_execute (s : Session) (inst : Instruction) :
    (s.after (execute inst)).machine.state =
      stateAfter s.machine.state (ofInstructions (executed s inst)) := by
  unfold executed
  cases hres : execute inst s with
  | ok u t =>
    obtain ⟨-, -, rfl⟩ := execute_eq_ok_iff.1 hres
    rw [Session.after_of_ok hres]
    exact effect_stateAfter inst s.machine
  | error f t =>
    rw [Session.after_of_error hres, atomic_execute inst s f t hres]
    rfl

theorem state_step (s : Session) :
    (s.after step).machine.state = stateAfter s.machine.state (ofInstructions s.retiring) := by
  cases hres : step s with
  | ok r t =>
    obtain ⟨inst, hd, -, -, -, rfl⟩ := step_eq_ok_iff.1 hres
    rw [Session.after_of_ok hres, Session.retiring_of_ok hres, Session.fetched_of_decode hd]
    exact effect_stateAfter inst s.machine
  | error f t =>
    rw [Session.after_of_error hres, Session.retiring_of_error hres, atomic_step s f t hres]
    rfl

/-- A step does not set a stopped machine running. -/
theorem step_keeps_halted {s : Session} (h : s.machine.state = .halted) :
    (s.after step).machine.state = .halted := by
  rw [state_step, h, stateAfter]
  -- nothing that an instruction can be is a milestone to run on from
  generalize hpast : ofInstructions s.retiring = past
  have hstopped : ∀ e ∈ past, e = .stopped := by
    intro e he
    rw [← hpast, ofInstructions, List.mem_filterMap] at he
    obtain ⟨inst, -, hinst⟩ := he
    split at hinst
    · exact (Option.some.inj hinst).symm
    · cases hinst
  clear hpast
  induction past with
  | nil => rfl
  | cons e past ih =>
    rw [List.foldl_cons, hstopped e (List.mem_cons_self ..)]
    exact ih fun e he => hstopped e (List.mem_cons_of_mem _ he)

/-! ## Runs -/

/-- The instructions that a run retires are no `HLT`, but for the last one if the run succeeds. -/
theorem exists_retiredIn_eq (s : Session) :
    ∃ insts, .halt ∉ insts ∧
      retiredIn s = insts ++ if fault? (run s) = none then [.halt] else [] := by
  obtain ⟨past, t, trail, hpath, hending, -, -, hretired, -⟩ := exists_course s
  refine ⟨instructionsOf trail, fun hmem => path_goesOn hpath _ hmem rfl, ?_⟩
  rw [hretired, retiring_of_ending hending (path_running hpath rfl)]

theorem state_of_ending {t : Session} {r : Outcome} (h : Ending t r)
    (hrun : t.machine.state = .running) :
    (finalSession r).machine.state = if fault? r = none then .halted else .running := by
  cases h with
  | undecoded hd => exact (congrArg state t.traced_machine).trans hrun
  | @stray inst reg hd hreg => exact (congrArg state (t.announce_machine inst)).trans hrun
  | @refused inst hd hnamed hfull =>
    exact (congrArg state (t.announce_refuse_machine inst)).trans hrun
  | halted hd => rfl

/-- A run leaves the machine stopped if it succeeds, and running if it fails. -/
theorem state_run (s : Session) :
    (finalSession (run s)).machine.state = if fault? (run s) = none then .halted else .running := by
  obtain ⟨trail, t, hpath, hending⟩ := exists_path_ending s
  exact state_of_ending hending (path_running hpath rfl)

theorem run_ok_iff (s : Session) :
    (∃ s', run s = .ok () s') ↔ (retiredIn s).getLast? = some .halt := by
  obtain ⟨insts, hhalt, hretired⟩ := exists_retiredIn_eq s
  rw [hretired]
  cases hres : run s with
  | ok u t => simp [fault?]
  | error f t =>
    -- then the last instruction is one of those that are no `HLT`
    simp only [reduceCtorEq, exists_false, fault?, if_false, List.append_nil, false_iff]
    exact fun hlast => hhalt (List.mem_of_getLast? hlast)

end Machine

/-! ## Operations -/

namespace Operation

open Ls8.Machine Milestone

/-- The instructions that an operation executes to their end. -/
def executes (s : Session) : Operation → List Instruction
  | execute inst => executed s inst
  | op => op.retires s

/-- The milestone with which an operation begins, if there is one. -/
def opening : Operation → List Milestone
  | reset => [.reset]
  | run => [.started]
  | _ => []

/-- The milestones of an operation, in order. -/
def milestones (s : Session) (op : Operation) : List Milestone :=
  op.opening ++ ofInstructions (op.executes s)

theorem milestones_of_isPlain {op : Operation} (h : op.isPlain = true) (s : Session) :
    op.milestones s = [] := by
  cases op <;> first | rfl | cases h

theorem next_state (files : Files) (s : Session) (op : Operation) :
    (next files s op).machine.state = stateAfter s.machine.state (op.milestones s) := by
  rw [next_eq_after]
  cases hplain : op.isPlain with
  | true =>
    rw [milestones_of_isPlain hplain]
    exact keeps_perform ⟨fun _ _ => rfl, fun _ _ => rfl, fun _ _ => rfl⟩ hplain files s
  | false =>
    cases op with
    | step =>
      rw [perform, Session.after_answering]
      exact state_step s
    | execute inst =>
      rw [perform, Session.after_quietly]
      exact state_execute s inst
    | run =>
      rw [perform, Session.after_quietly, after_run, state_run]
      obtain ⟨insts, hhalt, hretired⟩ := exists_retiredIn_eq s
      -- of what it retires only the `HLT` at the end is a milestone
      show _ = stateAfter s.machine.state ([.started] ++ ofInstructions (retiredIn s))
      rw [hretired, ofInstructions_append, ofInstructions_of_notMem hhalt]
      split <;> rfl
    | reset | resetStatistics | setTracing | setHaltResetsPc => rfl
    | _ => cases hplain

end Operation

/-! ## Histories -/

/-- The milestones of a history of calls, in order. -/
def milestonesOf (s : Session) : List Call → List Milestone
  | [] => []
  | c :: calls =>
    c.operation.milestones { s with output := c.stream } ++ milestonesOf (c.perform s) calls

open Milestone in
theorem performAll_state (s : Session) (calls : List Call) :
    (s.performAll calls).machine.state = stateAfter s.machine.state (milestonesOf s calls) := by
  induction calls generalizing s with
  | nil => rfl
  | cons c calls ih =>
    rw [Session.performAll, ih, milestonesOf, stateAfter_append]
    congr 1
    exact Operation.next_state c.files { s with output := c.stream } c.operation

namespace Machine

open Ls8.Action

/--
**The run state.** Take a new machine with any configuration and any history of calls, with whatever
streams and files, and failures among them. The machine is stopped exactly if, of being made, being
reset, beginning a run and executing a `HLT` in a step, in a run or directly, the last was a `HLT`.

A run succeeds exactly if the last instruction that it retires is a `HLT`; then the machine is stopped,
and no other instruction that it retired was one. A run that fails leaves the machine running, also if
it was stopped before. A step never sets a stopped machine running.
-/
theorem run_state_protocol (c : Config) (calls : List Call) :
    ((({ machine := ofConfig c } : Session).performAll calls).machine.state = .halted ↔
      (.made :: milestonesOf { machine := ofConfig c } calls).getLast? = some .stopped) ∧
    ∀ s : Session,
      ((∃ s', run s = .ok () s') ↔ (retiredIn s).getLast? = some .halt) ∧
      (∀ s', run s = .ok () s' → s'.machine.state = .halted ∧ .halt ∉ (retiredIn s).dropLast) ∧
      (∀ f s', run s = .error f s' → s'.machine.state = .running) ∧
      (s.machine.state = .halted → (s.after step).machine.state = .halted) := by
  refine ⟨?_, ?_⟩
  · -- being made is the first milestone, so there is a last one
    rw [performAll_state, ← Milestone.stateAfter_eq_halted_iff (List.cons_ne_nil _ _) .running]
    rfl
  · intro s
    have hstate := state_run s
    refine ⟨run_ok_iff s, ?_, ?_, step_keeps_halted⟩
    · intro s' h
      obtain ⟨insts, hhalt, hretired⟩ := exists_retiredIn_eq s
      rw [h] at hstate hretired
      refine ⟨hstate, ?_⟩
      rw [hretired]
      show Instruction.halt ∉ (insts ++ [Instruction.halt]).dropLast
      rw [List.dropLast_concat]
      exact hhalt
    · intro f s' h
      rw [h] at hstate
      exact hstate

/-- A program that loads R0 and stops, on a machine whose program counter `HLT` moves back: it is run,
stepped on while it is stopped, stopped directly, and run into a fault. -/
def steppedOn : List Call :=
  [{ operation := .load [130, 0, 5, 1] }, { operation := .run }, { operation := .step },
   { operation := .reset }, { operation := .execute .halt }, { operation := .setPc 4 }]

/-- After the first run the step loads R0 again and the machine is still stopped; the direct `HLT` stops
it once more, and then a run finds nothing to execute and leaves it running. -/
theorem run_state_protocol_steppedOn :
    let stopped := ({ machine := ofConfig { cpu := { haltResetsPc := true } } } : Session).performAll
      steppedOn
    milestonesOf { machine := ofConfig { cpu := { haltResetsPc := true } } } steppedOn =
      [.started, .stopped, .reset, .stopped] ∧
    stopped.machine.state = .halted ∧
    (stopped.after step).machine.state = .halted ∧
    ∃ s', run stopped = .error (.unknownOpcode 0 4) s' ∧ s'.machine.state = .running := by
  intro stopped
  obtain ⟨hiff, hruns⟩ := run_state_protocol { cpu := { haltResetsPc := true } } steppedOn
  have hmilestones : milestonesOf { machine := ofConfig { cpu := { haltResetsPc := true } } }
      steppedOn = [.started, .stopped, .reset, .stopped] := by
    decide +kernel
  have hstopped : stopped.machine.state = .halted := by
    rw [hiff, hmilestones]
    rfl
  obtain ⟨-, -, hfailed, hstep⟩ := hruns stopped
  have hfault : fault? (run stopped) = some (.unknownOpcode 0 4) := by
    decide +kernel
  refine ⟨hmilestones, hstopped, hstep hstopped, ?_⟩
  cases hres : run stopped with
  | ok u s' =>
    rw [hres] at hfault
    cases hfault
  | error f s' =>
    rw [hres] at hfault
    obtain rfl := Option.some.inj hfault
    exact ⟨s', rfl, hfailed _ _ hres⟩

end Machine

end Ls8
