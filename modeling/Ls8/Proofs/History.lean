import Ls8.Proofs.Atomicity
import Ls8.Proofs.Counters
import Ls8.Proofs.Course
import Ls8.Proofs.Frame

/-!
# Counters over a history

A machine is used by one call after the other. Steps and runs count the instructions that they
retire, two operations clear the counters, and nothing else touches them. So at every moment the
counters tell of the instructions that were retired since they were last cleared.

Every call brings its own output stream and its own files, and may fail.

Main results:

* `next_statistics` — what one operation does to the counters.
* `performAll_statistics` — what a history does to them.
* `tallied_foldl` — what counters tell of the instructions that were counted.
* `history_tallied` — all histories of a new machine.
-/

namespace Ls8

/-- An operation, with the files and the stream that it finds. -/
structure Call where
  operation : Operation
  files : Files := fun _ => .error .missing
  stream : Sink := {}

/-! ## Operations and counters -/

namespace Operation

open Ls8.Machine

/-- The instructions that an operation retires. -/
def retires (s : Session) : Operation → List Instruction
  | step => s.retiring
  | run => retiredIn s
  | _ => []

/-- Whether an operation clears the counters. -/
def clears : Operation → Bool
  | reset => true
  | resetStatistics => true
  | _ => false

variable {op : Operation}

theorem statistics_step (s : Session) :
    (s.after Machine.step).machine.statistics =
      s.retiring.foldl Statistics.record s.machine.statistics := by
  cases hres : Machine.step s with
  | ok r t =>
    obtain ⟨inst, hd, -, -, -, rfl⟩ := step_eq_ok_iff.1 hres
    rw [Session.after_of_ok hres, Session.retiring_of_ok hres, Session.fetched_of_decode hd]
    -- the effect of an instruction is not on the counters
    exact congrArg (·.record inst) (effect_statistics inst s.machine)
  | error f t =>
    rw [Session.after_of_error hres, Session.retiring_of_error hres]
    exact congrArg statistics (atomic_step s f t hres)

/-- Only steps, runs and the two operations that clear the counters have to do with them. -/
theorem keeps_statistics (files : Files) (hstep : op ≠ step) (hrun : op ≠ run)
    (hclears : op.clears = false) : Keeps statistics (op.perform files) := by
  cases hplain : op.isPlain with
  | true => exact keeps_perform ⟨fun _ _ => rfl, fun _ _ => rfl, fun _ _ => rfl⟩ hplain files
  | false =>
    cases op with
    | step => exact absurd rfl hstep
    | run => exact absurd rfl hrun
    | reset | resetStatistics => cases hclears
    | execute inst => exact (keeps_execute (effect_statistics inst)).quietly
    | setTracing | setHaltResetsPc =>
      refine Keeps.quietly (Keeps.change ?_)
      intro m
      rfl
    | _ => cases hplain

theorem after_run (s : Session) : s.after Machine.run = finalSession (Machine.run s) := by
  unfold Session.after
  cases Machine.run s <;> rfl

theorem next_eq_after (files : Files) (s : Session) (op : Operation) :
    next files s op = s.after (op.perform files) := by
  unfold next Session.after
  cases op.perform files s <;> rfl

/-- An operation that does not clear the counters counts what it retires. -/
theorem next_statistics (files : Files) (s : Session) (op : Operation) :
    (next files s op).machine.statistics =
      if op.clears then .zero
      else (op.retires s).foldl Statistics.record s.machine.statistics := by
  rw [next_eq_after]
  by_cases hstep : op = step
  · subst hstep
    rw [perform, Session.after_answering]
    exact statistics_step s
  by_cases hrun : op = run
  · subst hrun
    rw [perform, Session.after_quietly]
    rw [after_run]
    exact statistics_run s
  cases hclears : op.clears with
  | true => cases op <;> first | rfl | cases hclears
  | false =>
    have hnothing : op.retires s = [] := by
      cases op <;> first | rfl | contradiction
    rw [keeps_statistics files hstep hrun hclears, hnothing]
    rfl

end Operation

/-! ## Histories -/

namespace Call

/-- Performs the operation of a call on the stream of the call; the answer is dropped. -/
def perform (s : Session) (c : Call) : Session :=
  c.operation.next c.files { s with output := c.stream }

/-- The instructions retired since the counters were last cleared, with those of a call. -/
def since (s : Session) (past : List Instruction) (c : Call) : List Instruction :=
  if c.operation.clears then [] else past ++ c.operation.retires { s with output := c.stream }

theorem perform_statistics {s : Session} {past : List Instruction}
    (h : s.machine.statistics = past.foldl Statistics.record .zero) (c : Call) :
    (c.perform s).machine.statistics = (c.since s past).foldl Statistics.record .zero := by
  have hnext := Operation.next_statistics c.files { s with output := c.stream } c.operation
  rw [perform, since, hnext]
  split
  · rfl
  · rw [List.foldl_append, ← h]

end Call

/-- The session after a history of calls, failed ones included. -/
def Session.performAll (s : Session) : List Call → Session
  | [] => s
  | c :: calls => (c.perform s).performAll calls

/-- The instructions that a history of calls retires behind the last call that clears the counters;
`past` are those retired before it. -/
def retiredSince (s : Session) (past : List Instruction) : List Call → List Instruction
  | [] => past
  | c :: calls => retiredSince (c.perform s) (c.since s past) calls

/-- The counters tell of what was retired since they were last cleared. -/
theorem performAll_statistics {s : Session} {past : List Instruction}
    (h : s.machine.statistics = past.foldl Statistics.record .zero) (calls : List Call) :
    (s.performAll calls).machine.statistics =
      (retiredSince s past calls).foldl Statistics.record .zero := by
  -- call by call; what was retired before is carried along
  induction calls generalizing s past with
  | nil => exact h
  | cons c calls ih => exact ih (c.perform_statistics h)

/-! ## What counters tell -/

namespace Statistics

/-- What counters tell of the instructions that were counted, in order. The greatest depth is the
maximum over all moments, which are the beginnings of the list. -/
structure Tallied (st : Statistics) (insts : List Instruction) : Prop where
  retired      : st.retired = insts.length
  counter      : ∀ op, st.counter op = insts.countP fun inst => inst.opcode = op
  total        : st.retired =
                   st.halts + st.loads + st.prints + st.arithmetic + st.pushes + st.pops
  printed      : st.printed = st.prints
  greatest     : IsGreatest { d | ∃ past, past <+: insts ∧ Ls8.depth past = d } st.maxDepth
  depth_le     : st.depth ≤ st.maxDepth
  maxDepth_le  : st.maxDepth ≤ st.pushes

theorem tallied_foldl (insts : List Instruction) : Tallied (insts.foldl record zero) insts := by
  have hgreatest := foldl_record_maxDepth insts
  have hretired : (insts.foldl record zero).retired = insts.length := by
    rw [Machine.foldl_record_retired]
    exact Nat.zero_add _
  refine ⟨hretired, ?_, ?_, ?_, hgreatest, ?_, ?_⟩
  · intro op
    rw [foldl_record_counter]
    cases op <;> exact Nat.zero_add _
  · rw [hretired]
    exact ((foldl_record_total zero insts).trans (Nat.zero_add _)).symm
  · have hprinted := foldl_record_printed zero insts
    exact hprinted.trans (Nat.zero_add _)
  · -- the present moment is one of all
    exact hgreatest.2 ⟨insts, List.prefix_refl _, (foldl_record_depth insts).symm⟩
  · -- at the moment of the greatest depth no more can have been pushed than now
    obtain ⟨past, hpast, hdepth⟩ := hgreatest.1
    rw [← hdepth, (foldl_record_counts insts).1]
    have hpushes : Ls8.pushes past ≤ Ls8.pushes insts := hpast.sublist.countP_le
    unfold Ls8.depth
    omega

end Statistics

namespace Machine

/--
**Counters over a history.** Take a new machine with any configuration and any history of calls,
with whatever streams and files, and failures among them. The counters tell of the instructions
that were retired since they were last cleared: how many they are and how many of each kind, that
every printed value is that of a `PRN`, and at the greatest depth the maximum, over all moments
since then, of the excess of pushes over pops.

Executing an instruction directly, loading, arithmetic and steps that fail change no counter.
-/
theorem history_tallied (c : Config) (calls : List Call) :
    Statistics.Tallied (({ machine := ofConfig c } : Session).performAll calls).machine.statistics
      (retiredSince { machine := ofConfig c } [] calls) ∧
    (∀ inst, Keeps statistics (execute inst)) ∧
    (∀ image, Keeps statistics (load image)) ∧
    (∀ source, Keeps statistics (loadText source)) ∧
    (∀ files path, Keeps statistics (loadFile files path)) ∧
    (∀ op regA regB, Keeps statistics (alu op regA regB)) ∧
    ∀ (s : Session) (f : Fault) (s' : Session), step s = .error f s' →
      s'.machine.statistics = s.machine.statistics := by
  refine ⟨?_, ?_, ?_, ?_, ?_, ?_, ?_⟩
  · have hnew : (ofConfig c).statistics = ([] : List Instruction).foldl Statistics.record .zero := rfl
    rw [performAll_statistics (s := { machine := ofConfig c }) hnew]
    exact Statistics.tallied_foldl _
  · exact fun inst => keeps_execute (effect_statistics inst)
  · exact keeps_load fun _ _ => rfl
  · exact keeps_loadText fun _ _ => rfl
  · exact keeps_loadFile fun _ _ => rfl
  · exact keeps_alu fun _ _ => rfl
  · exact fun s f s' h => congrArg statistics (atomic_step s f s' h)

/-- Pushes, pops twice, pushes twice, pops, prints and stops: a program that is run and cleared
away, run again, and run once more on a full stream. -/
def popsBelow : List Call :=
  [{ operation := .load [69, 0, 70, 0, 70, 0, 69, 0, 69, 0, 70, 0, 71, 0, 1] },
   { operation := .run }, { operation := .reset }, { operation := .run },
   { operation := .execute (.push 0) }, { operation := .setPc 0 },
   { operation := .run, stream := { room := some 0 } }]

/-- The second push of each run makes up for a pop of the empty stack, so the depth is never 2. -/
theorem history_tallied_popsBelow :
    ∃ final, ({ machine := ofConfig {} } : Session).performAll popsBelow = final ∧
      final.machine.statistics =
        { retired := 14, printed := 1, halts := 1, prints := 1, pushes := 6, pops := 6,
          maxDepth := 1 } ∧
      (∀ past, past <+: retiredSince { machine := ofConfig {} } [] popsBelow → depth past ≤ 1) ∧
      ∃ f s', step { machine := ofConfig {} } = .error f s' ∧ s'.machine.statistics = .zero := by
  obtain ⟨htallied, -, -, -, -, -, hfailed⟩ := history_tallied {} popsBelow
  have hcounters : (({ machine := ofConfig {} } : Session).performAll
      popsBelow).machine.statistics =
        { retired := 14, printed := 1, halts := 1, prints := 1, pushes := 6, pops := 6,
          maxDepth := 1 } := by
    decide +kernel
  -- there is no instruction in an empty memory
  have hstray : step { machine := ofConfig {} } = .error (.unknownOpcode 0 0)
      ({ machine := ofConfig {} } : Session).traced :=
    step_eq_error_iff.2 (.inl ⟨by decide +kernel, rfl⟩)
  refine ⟨_, rfl, hcounters, ?_, _, _, hstray, hfailed _ _ _ hstray⟩
  intro past hpast
  have hbound := htallied.greatest.2 ⟨past, hpast, rfl⟩
  rw [hcounters] at hbound
  exact hbound

end Machine

end Ls8
