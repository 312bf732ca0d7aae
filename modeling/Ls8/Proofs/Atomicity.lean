import Ls8.Machine.Loading
import Ls8.Proofs.Path

/-!
# Failures leave the machine alone

What fails on a machine fails as a whole: registers, program counter, memory, run state, counters
and switches are those of before. The notices may have grown, and the output stream may have taken
the beginning of a line.

For a run this means that it can be looked at where it broke off: its machine is the one behind the
last instruction that it retired.

Main results:

* `atomic_execute`, `atomic_step` — an instruction or a step that fails changes no machine.
* `failure_keeps_machine` — the same for every operation that can fail, and what it says of a run.
-/

namespace Ls8

/-- Whenever the action fails, the machine is the one that it began with. -/
def Atomic {ε α : Type} (x : EStateM ε Session α) : Prop :=
  ∀ (s : Session) (e : ε) (s' : Session), x s = .error e s' → s'.machine = s.machine

namespace Machine

open Ls8.Action

/-! ## Execution -/

theorem atomic_execute (inst : Instruction) : Atomic (execute inst) := by
  intro s f s' h
  rcases execute_eq_error_iff.1 h with ⟨_, -, -, rfl⟩ | ⟨-, -, -, rfl⟩
  · rfl
  · -- the stream may have taken a part of the text
    rfl

theorem atomic_step : Atomic step := by
  intro s f s' h
  rcases step_eq_error_iff.1 h with ⟨-, rfl⟩ | ⟨inst, -, he⟩
  · exact s.traced_machine
  · rw [atomic_execute inst _ f s' he, s.announce_machine]

theorem atomic_alu (op : Arithmetic) (regA regB : UInt8) : Atomic (alu op regA regB) := by
  intro s f s' h
  cases hstray : (Instruction.multiply regA regB).stray? with
  | some r =>
    rw [alu_of_stray hstray] at h
    cases h
    rfl
  | none =>
    have hnamed := Instruction.stray?_eq_none_iff.1 hstray
    obtain ⟨ha, hb⟩ := hnamed.both rfl
    rw [alu_of_lt ha hb] at h
    cases h

/-! ## Loading -/

/-- An image that memory takes is copied there and logged. -/
theorem load_of_ok {image : List UInt8} {s : Session} {mem : Memory}
    (h : s.machine.memory.load image = .ok mem) :
    load image s = .ok () (({ s with machine := { s.machine with memory := mem } } : Session).note
      (.event (.programLoaded image.length))) := by
  have hload : s.machine.loadImage image = .ok { s.machine with memory := mem } := by
    rw [loadImage, h]
    rfl
  rw [load, bind_of_ok (update_of_ok hload)]
  rfl

theorem atomic_load (image : List UInt8) : Atomic (load image) := by
  intro s f s' h
  rcases bind_eq_error_iff.1 h with h | ⟨_, _, -, h⟩
  · rw [(update_eq_error_iff.1 h).2]
  · cases h

theorem atomic_toTask {α : Type} {x : Action α} (h : Atomic x) : Atomic x.toTask := by
  intro s e s' he
  rw [toTask_eq] at he
  cases hx : x s with
  | ok a t =>
    rw [hx] at he
    cases he
  | error f t =>
    rw [hx] at he
    cases he
    exact h s f _ hx

/-- The events of a file are logged before the image is found to be too large. -/
theorem atomic_loadFile (files : Files) (path : String) : Atomic (loadFile files path) := by
  intro s e s' h
  unfold loadFile at h
  cases hfile : Program.ofFile files path with
  | error f =>
    rw [hfile] at h
    cases h
    rfl
  | ok program =>
    rw [hfile] at h
    -- reading the file has nothing to do with the machine; logging and loading have
    refine atomic_toTask ?_ s e s' h
    intro t f t' ht
    rcases bind_eq_error_iff.1 ht with ht | ⟨_, t₁, hlog, ht⟩
    · cases ht
    · cases hlog
      rcases bind_eq_error_iff.1 ht with ht | ⟨_, _, -, ht⟩
      · have hload := atomic_load program.image _ f t' ht
        exact hload
      · cases ht

/-! ## Runs -/

/-- A run that fails does so in the step behind some path, and leaves the machine as that path
did. -/
theorem path_of_run_error {s s' : Session} {f : Fault} (h : run s = .error f s') :
    ∃ trail t, Path s.started trail t ∧ step t = .error f s' ∧ s'.machine = t.machine := by
  rw [run_eq_runOn] at h
  obtain ⟨trail, t, hpath, hlast⟩ := runOn_iff_path.1 h
  cases hlast with
  | fault hstep => exact ⟨trail, t, hpath, hstep, atomic_step t f s' hstep⟩

/--
**Failures leave the machine alone.** An instruction, a step, an arithmetic operation or a load that
fails, from a list of bytes or from a file, leaves the machine exactly as it was.

A run that fails is a path of retired instructions, all counted, and a failing step: its machine is
the one at the end of the path, which is the one that the run began with if the trail is empty, and
it is running.
-/
theorem failure_keeps_machine :
    (∀ inst, Atomic (execute inst)) ∧
    Atomic step ∧
    (∀ op regA regB, Atomic (alu op regA regB)) ∧
    (∀ image, Atomic (load image)) ∧
    (∀ files path, Atomic (loadFile files path)) ∧
    ∀ (s : Session) (f : Fault) (s' : Session), run s = .error f s' →
      s'.machine.state = .running ∧
      ∃ trail t, Path s.started trail t ∧ step t = .error f s' ∧ s'.machine = t.machine ∧
        s'.machine.statistics.retired = s.machine.statistics.retired + trail.length := by
  refine ⟨atomic_execute, atomic_step, atomic_alu, atomic_load, atomic_loadFile, ?_⟩
  intro s f s' h
  obtain ⟨trail, t, hpath, hstep, hsame⟩ := path_of_run_error h
  refine ⟨?_, trail, t, hpath, hstep, hsame, ?_⟩
  · rw [hsame]
    exact path_running hpath rfl
  · have hcount := path_retired hpath
    rw [hsame]
    exact hcount

/-- A new machine with `PRN R0` and `POP R9` in memory. -/
def printThenStray : Session where
  machine := { ofConfig {} with memory := (Memory.zero.load [71, 0, 70, 9]).toOption.getD .zero }

/-- The second instruction names no register; what the first printed stays printed. -/
theorem failure_keeps_machine_printThenStray :
    ∃ s', run printThenStray = .error (.invalidRegister 9) s' ∧ s'.output.written = ['0', '\n'] ∧
      s'.machine.state = .running ∧
      ∃ trail t, Path printThenStray.started trail t ∧ step t = .error (.invalidRegister 9) s' ∧
        s'.machine = t.machine ∧ s'.machine.statistics.retired = 0 + trail.length := by
  -- evaluated as a test, since sessions are not compared as wholes
  have hrun : (match run printThenStray with
      | .error f s' => decide (f = .invalidRegister 9 ∧ s'.output.written = ['0', '\n'])
      | .ok _ _ => false) = true := by
    decide +kernel
  cases h : run printThenStray with
  | ok u s' =>
    rw [h] at hrun
    cases hrun
  | error f s' =>
    rw [h] at hrun
    obtain ⟨rfl, hwritten⟩ := of_decide_eq_true hrun
    exact ⟨s', rfl, hwritten, failure_keeps_machine.2.2.2.2.2 printThenStray _ s' h⟩

end Machine

end Ls8
