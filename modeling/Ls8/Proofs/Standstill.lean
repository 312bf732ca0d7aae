import Mathlib.Logic.Function.Iterate
import Ls8.Proofs.Ending
import Ls8.Proofs.Frame

/-!
# Standstill

A run leaves the program counter on the instruction that ended it: on the `HLT`, unless `HLT` is to move
it away, or on what could not be decoded or names no register. Whatever the program did to memory on the
way, the next run finds the same at the same place. It ends there at once and in the same way, and so do
all that follow.

A run that ended because the stream refused a line is another matter, as the next stream may have room.

The invariants are `AtHalt` and `Stuck`. What a single run does under an invariant that it keeps is done
by any number of runs, which is `successiveRuns_of_invariant`.

Main results:

* `atHalt_of_run`, `stuck_of_run` — a run leaves one of the invariants.
* `run_of_atHalt`, `run_of_stuck` — what a run does under each.
* `stopped_stays_stopped` — any number of further runs.
-/

namespace Ls8

namespace Machine

open Ls8.Action

variable {s s' : Session} {m : Machine} {f : Fault}

/-! ## Runs one after the other -/

/-- What runs come to that are made one after the other, each on a stream of its own. Each begins with
the machine that the one before it left, whether that succeeded or failed. -/
def successiveRuns : Session → List Sink → List Outcome
  | _, [] => []
  | s, stream :: streams =>
    let r := run { s with output := stream }
    r :: successiveRuns (finalSession r) streams

/-- The run from `s` ends with that fault, or with none, writes nothing, and changes the machine so. -/
structure Unwritten (s : Session) (fault : Option Fault) (change : Machine → Machine) : Prop where
  fault   : fault? (run s) = fault
  output  : (finalSession (run s)).output = s.output
  machine : (finalSession (run s)).machine = change s.machine

/-- What ends a run where it begins is all that the run comes to. -/
theorem unwritten_of_ending {r : Outcome} {change : Machine → Machine} (h : Ending s.started r)
    (houtput : (finalSession r).output = s.output)
    (hmachine : (finalSession r).machine = change s.machine) : Unwritten s (fault? r) change := by
  obtain rfl : run s = r := run_eq_of_ending (.nil _) h
  exact ⟨rfl, houtput, hmachine⟩

/-- What a run does under an invariant that it keeps, each of any number of runs does. -/
theorem successiveRuns_of_invariant {inv : Machine → Prop} {fault : Option Fault}
    {change : Machine → Machine}
    (hrun : ∀ s : Session, inv s.machine → Unwritten s fault change)
    (hkeeps : ∀ m, inv m → inv (change m)) (hs : inv s.machine) {streams : List Sink} {k : Nat}
    {stream : Sink} (hk : streams[k]? = some stream) :
    ∃ r, (successiveRuns s streams)[k]? = some r ∧ fault? r = fault ∧
      (finalSession r).output = stream ∧ (finalSession r).machine = change^[k + 1] s.machine := by
  -- on the runs, for every machine that the first of them may find
  induction streams generalizing s k with
  | nil => cases hk
  | cons first streams ih =>
    have hfirst := hrun { s with output := first } hs
    cases k with
    | zero =>
      obtain rfl : first = stream := Option.some.inj hk
      exact ⟨_, rfl, hfirst.fault, hfirst.output, hfirst.machine⟩
    | succ k =>
      have hnext : inv (finalSession (run { s with output := first })).machine := by
        rw [hfirst.machine]
        exact hkeeps _ hs
      obtain ⟨r, hr, hfault, houtput, hmachine⟩ := ih hnext hk
      refine ⟨r, hr, hfault, houtput, ?_⟩
      rw [hmachine, hfirst.machine, ← Function.iterate_succ_apply]

/-! ## On a `HLT` -/

/-- The machine was stopped by the `HLT` at its program counter, and the next one leaves it there. -/
structure AtHalt (m : Machine) : Prop where
  decoded : m.memory.decode m.pc = .ok .halt
  stays   : m.haltResetsPc = false
  halted  : m.state = .halted

/-- The machine with so many more `HLT` retired. -/
def withHalts (m : Machine) (n : Nat) : Machine :=
  { m with statistics := { m.statistics with
      retired := m.statistics.retired + n
      halts := m.statistics.halts + n } }

theorem iterate_withHalts (m : Machine) (n : Nat) : (withHalts · 1)^[n] m = m.withHalts n := by
  induction n generalizing m with
  | zero => rfl
  | succ n ih =>
    rw [Function.iterate_succ_apply, ih]
    simp only [withHalts, Nat.add_assoc, Nat.add_comm 1]

theorem keeps_haltResetsPc_run : Keeps haltResetsPc run := by
  have heffect : ∀ (inst : Instruction) (m : Machine),
      (m.effect inst).haltResetsPc = m.haltResetsPc := by
    intro inst m
    cases inst <;> rfl
  exact keeps_run (keeps_step heffect fun _ _ => rfl) fun _ _ => rfl

/-- The step of a `HLT` stops the machine and counts it. -/
theorem retire_halt_machine (t : Session) : (t.retire .halt).machine = t.machine.halt.withHalts 1 := rfl

/-- A run that succeeds leaves the machine on the `HLT` that ended it. -/
theorem atHalt_of_run (h : run s = .ok () s') (hstays : s.machine.haltResetsPc = false) :
    AtHalt s'.machine := by
  have hswitch : s'.machine.haltResetsPc = false := by
    rw [← hstays, ← keeps_haltResetsPc_run s, Session.after_of_ok h]
  obtain ⟨trail, t, -, hending⟩ := exists_path_ending s
  rw [h] at hending
  cases hending with
  | halted hd =>
    have hpc : t.machine.halt.pc = t.machine.pc := if_neg (ne_true_of_eq_false hswitch)
    refine ⟨?_, hswitch, rfl⟩
    -- no memory was written in that step, and the program counter is where it was
    show t.machine.memory.decode t.machine.halt.pc = .ok .halt
    rw [hpc, hd]

/-- On a `HLT` a run retires just that, and is there again. -/
theorem run_of_atHalt (h : AtHalt s.machine) : Unwritten s none (withHalts · 1) := by
  obtain ⟨hdecoded, hstays, hhalted⟩ := h
  have hpc : s.started.machine.halt.pc = s.machine.pc := if_neg (ne_true_of_eq_false hstays)
  have hsame : s.started.machine.halt = s.machine := by
    show { s.machine with state := .halted, pc := s.started.machine.halt.pc } = s.machine
    rw [hpc, ← hhalted]
  refine unwritten_of_ending (.halted hdecoded) s.output.write_nil ?_
  show (s.started.retire .halt).machine = _
  rw [retire_halt_machine, hsame]

/-! ## On what cannot be executed -/

/-- A run was ended by what stands at the program counter: it does not decode, or names no register. -/
structure Stuck (f : Fault) (m : Machine) : Prop where
  cause   : m.memory.decode m.pc = .error f ∨
    ∃ inst reg, m.memory.decode m.pc = .ok inst ∧ inst.stray? = some reg ∧ f = .invalidRegister reg
  running : m.state = .running

/-- A run that fails leaves the machine on what it failed at, unless it failed to write. -/
theorem stuck_of_run (h : run s = .error f s') (hwrote : f ≠ .outputRefused) : Stuck f s'.machine := by
  obtain ⟨trail, t, hpath, hending⟩ := exists_path_ending s
  have hrunning : t.machine.state = .running := path_running hpath rfl
  rw [h] at hending
  cases hending with
  | undecoded hd =>
    rw [t.traced_machine]
    exact ⟨.inl hd, hrunning⟩
  | @stray inst reg hd hreg =>
    rw [t.announce_machine]
    exact ⟨.inr ⟨inst, reg, hd, hreg, rfl⟩, hrunning⟩
  | refused => exact absurd rfl hwrote

/-- What could not be executed is found again, and fails again. -/
theorem run_of_stuck (h : Stuck f s.machine) : Unwritten s (some f) id := by
  obtain ⟨hcause, hrunning⟩ := h
  -- the run state is already what a run begins with
  have hstarted : s.started.machine = s.machine := by
    show { s.machine with state := .running } = s.machine
    rw [← hrunning]
  rcases hcause with hd | ⟨inst, reg, hd, hreg, rfl⟩
  · exact unwritten_of_ending (.undecoded hd) s.started.traced_output
      (s.started.traced_machine.trans hstarted)
  · exact unwritten_of_ending (.stray hd hreg) (s.started.announce_output inst)
      ((s.started.announce_machine inst).trans hstarted)

/-! ## Any number of further runs -/

/--
**A stopped machine stays stopped.** Make any number of further runs behind a run, each on its own
stream.

If the run succeeded and `HLT` does not move the program counter, each of them succeeds, writes nothing,
and leaves the machine as it was but for two counters: behind the n-th of them the retired instructions
and the halts have grown by n.

If the run failed, and not because a line was refused, then it met an unknown opcode, an address out of
range or a register that there is not. Each of them fails with the same fault, writes nothing, and leaves
the machine as it was with all its counters.
-/
theorem stopped_stays_stopped (s : Session) (streams : List Sink) :
    (∀ s', run s = .ok () s' → s.machine.haltResetsPc = false →
      ∀ (k : Nat) (stream : Sink), streams[k]? = some stream →
        ∃ t : Session, (successiveRuns s' streams)[k]? = some (.ok () t) ∧ t.output = stream ∧
          t.machine = { s'.machine with statistics := { s'.machine.statistics with
            retired := s'.machine.statistics.retired + (k + 1)
            halts := s'.machine.statistics.halts + (k + 1) } }) ∧
    (∀ f s', run s = .error f s' → f ≠ .outputRefused →
      ∀ (k : Nat) (stream : Sink), streams[k]? = some stream →
        ∃ t : Session, (successiveRuns s' streams)[k]? = some (.error f t) ∧ t.output = stream ∧
          t.machine = s'.machine) := by
  constructor
  · intro s' h hstays k stream hk
    -- a `HLT` that is counted once more is the same `HLT`
    have hkeeps : ∀ m, AtHalt m → AtHalt (m.withHalts 1) := fun m h => ⟨h.decoded, h.stays, h.halted⟩
    obtain ⟨r, hr, hfault, houtput, hmachine⟩ :=
      successiveRuns_of_invariant (fun _ => run_of_atHalt) hkeeps (atHalt_of_run h hstays) hk
    cases r with
    | error f t => cases hfault
    | ok u t => exact ⟨t, hr, houtput, hmachine.trans (iterate_withHalts _ _)⟩
  · intro f s' h hwrote k stream hk
    obtain ⟨r, hr, hfault, houtput, hmachine⟩ :=
      successiveRuns_of_invariant (fun _ => run_of_stuck) (fun _ => id) (stuck_of_run h hwrote) hk
    cases r with
    | ok u t => cases hfault
    | error f' t =>
      obtain rfl : f' = f := Option.some.inj hfault
      exact ⟨t, hr, houtput, hmachine.trans (congrFun (Function.iterate_id _) _)⟩

/-- A new machine whose `PUSH` makes a `HLT` of the `PRN` behind it, which names no register. -/
def haltsOnItsPush : Session where
  machine :=
    { ofConfig { cpu := { stackPointerInit := 6 } } with
      memory := (Memory.zero.load [130, 0, 1, 69, 0, 71, 9]).toOption.getD .zero }

/-- The same program with its stack elsewhere, so that the `PRN` stays as it is. -/
def straysBehindPush : Session where
  machine := { haltsOnItsPush.machine with registers := .zero }

/-- The third further run adds the third to one `HLT`, on a full stream as well; the other program fails
again on its `PRN`. -/
theorem stopped_stays_stopped_selfWritten :
    (∃ s' t : Session, run haltsOnItsPush = .ok () s' ∧
      (successiveRuns s' [{}, {}, { room := some 0 }])[2]? = some (.ok () t) ∧
      t.output = { room := some 0 } ∧ t.machine.pc = 5 ∧
      t.machine.statistics.halts = 4 ∧ t.machine.statistics.pushes = 1) ∧
    ∃ s' t : Session, run straysBehindPush = .error (.invalidRegister 9) s' ∧
      (successiveRuns s' [{}, { room := some 0 }])[1]? = some (.error (.invalidRegister 9) t) ∧
      t.machine = s'.machine := by
  constructor
  · have hrun : fault? (run haltsOnItsPush) = none := by decide +kernel
    have hend : (finalSession (run haltsOnItsPush)).machine.pc = 5 ∧
        (finalSession (run haltsOnItsPush)).machine.statistics.halts = 1 ∧
        (finalSession (run haltsOnItsPush)).machine.statistics.pushes = 1 := by
      decide +kernel
    cases h : run haltsOnItsPush with
    | error f s' =>
      rw [h] at hrun
      cases hrun
    | ok u s' =>
      rw [h] at hend
      obtain ⟨hpc, hhalts, hpushes⟩ := hend
      obtain ⟨t, ht, houtput, hmachine⟩ :=
        (stopped_stays_stopped haltsOnItsPush [{}, {}, { room := some 0 }]).1 s' h rfl 2 _ rfl
      refine ⟨s', t, rfl, ht, houtput, ?_⟩
      rw [hmachine]
      exact ⟨hpc, congrArg (· + 3) hhalts, hpushes⟩
  · have hrun : fault? (run straysBehindPush) = some (.invalidRegister 9) := by decide +kernel
    cases h : run straysBehindPush with
    | ok u s' =>
      rw [h] at hrun
      cases hrun
    | error f s' =>
      rw [h] at hrun
      obtain rfl := Option.some.inj hrun
      obtain ⟨t, ht, -, hmachine⟩ :=
        (stopped_stays_stopped straysBehindPush [{}, { room := some 0 }]).2 _ s' h nofun 1 _ rfl
      exact ⟨s', t, rfl, ht, hmachine⟩

end Machine

end Ls8
