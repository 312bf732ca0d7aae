import Ls8.Proofs.Account

/-!
# Registers and the way of a run

There is no jump, and registers are neither compared nor used as addresses of code. Their contents
reach the program in one way only, which is that a `PUSH` writes them over it. As long as none does,
two runs that begin in the same memory at the same place go abreast: they decode the same
instructions and end alike, whatever their registers hold, also if one pops from another part of
memory than the other.

The invariant is `Abreast`. It says nothing of registers, counters and printed text.

Main results:

* `passes_abreast`, `retire_abreast` — one instruction of two runs that are abreast.
* `path_abreast`, `ending_abreast` — the path and the ending of one run are those of the other.
* `run_independent_of_registers` — two whole runs.
-/

namespace Ls8

namespace Machine

open Ls8.Action

/-- Two machines with the same program at the same place, and the same rule for `HLT`. -/
structure SameProgram (m m' : Machine) : Prop where
  memory : m'.memory = m.memory
  pc     : m'.pc = m.pc
  resets : m'.haltResetsPc = m.haltResetsPc

/-- Two sessions of runs that go the same way. -/
structure Abreast (s u : Session) : Prop where
  program   : SameProgram s.machine u.machine
  running   : s.machine.state = .running ∧ u.machine.state = .running
  unlimited : s.output.room = none ∧ u.output.room = none

/-- Two runs end at the same place, with the same fault or without one, and with the same memory. -/
structure EndTogether (r r' : Outcome) : Prop where
  fault  : fault? r' = fault? r
  pc     : (finalSession r').machine.pc = (finalSession r).machine.pc
  state  : (finalSession r').machine.state = (finalSession r).machine.state
  memory : (finalSession r').machine.memory = (finalSession r).machine.memory

variable {s t u v : Session} {trail : List (Nat × Instruction)} {inst : Instruction} {r : Outcome}

/-! ## One instruction -/

theorem effect_haltResetsPc (inst : Instruction) (m : Machine) :
    (m.effect inst).haltResetsPc = m.haltResetsPc := by
  cases inst <;> rfl

theorem effect_memory_of_not_push (h : inst.isPush = false) (m : Machine) :
    (m.effect inst).memory = m.memory := by
  cases inst with
  | push reg => cases h
  | _ => rfl

/-- Whether an instruction passes does not depend on registers, if the stream takes everything. -/
theorem passes_abreast (hab : Abreast s u) (hpass : Passes s inst) : Passes u inst where
  decoded := by
    rw [hab.program.memory, hab.program.pc]
    exact hpass.decoded
  goesOn := hpass.goesOn
  named := hpass.named
  room := Sink.hasRoomFor_of_none hab.unlimited.2 _
  running := hab.running.2

theorem retire_abreast (hab : Abreast s u) (hpass : Passes s inst) (hpush : inst.isPush = false) :
    Abreast (s.retire inst) (u.retire inst) := by
  have hpass' := passes_abreast hab hpass
  refine ⟨⟨?_, ?_, ?_⟩, ⟨retire_running hpass, retire_running hpass'⟩, ?_, ?_⟩
  · show (u.machine.effect inst).memory = (s.machine.effect inst).memory
    rw [effect_memory_of_not_push hpush, effect_memory_of_not_push hpush, hab.program.memory]
  · rw [retire_pc hpass, retire_pc hpass', hab.program.pc]
  · show (u.machine.effect inst).haltResetsPc = (s.machine.effect inst).haltResetsPc
    rw [effect_haltResetsPc, effect_haltResetsPc, hab.program.resets]
  · exact Sink.room_write_of_none hab.unlimited.1 _
  · exact Sink.room_write_of_none hab.unlimited.2 _

/-! ## Paths and endings -/

/-- A path without `PUSH` can be walked from the other session, and leads to sessions abreast. -/
theorem path_abreast (h : Path s trail t) (hab : Abreast s u)
    (hpush : ∀ inst ∈ instructionsOf trail, inst.isPush = false) :
    ∃ v, Path u trail v ∧ Abreast t v := by
  -- on the path of the first run, which the second copies step by step
  induction h using path_induction generalizing u with
  | nil s => exact ⟨u, .nil u, hab⟩
  | cons s inst trail t hpass hrest ih =>
    have hhere : inst.isPush = false := hpush inst (List.mem_cons_self ..)
    obtain ⟨v, hv, hend⟩ := ih (retire_abreast hab hpass hhere)
      fun i hi => hpush i (List.mem_cons_of_mem _ hi)
    exact ⟨v, path_cons_iff.2 ⟨hab.program.pc.symm, passes_abreast hab hpass, hv⟩, hend⟩

theorem path_memory_of_not_push (h : Path s trail t)
    (hpush : ∀ inst ∈ instructionsOf trail, inst.isPush = false) :
    t.machine.memory = s.machine.memory := by
  induction h using path_induction with
  | nil s => rfl
  | cons s inst trail t hpass hrest ih =>
    rw [ih fun i hi => hpush i (List.mem_cons_of_mem _ hi)]
    exact effect_memory_of_not_push (hpush inst (List.mem_cons_self ..)) s.machine

theorem ending_memory (h : Ending t r) : (finalSession r).machine.memory = t.machine.memory := by
  cases h with
  | undecoded hd => exact congrArg memory t.traced_machine
  | @stray inst reg hd hreg => exact congrArg memory (t.announce_machine inst)
  | @refused inst hd hnamed hfull => exact congrArg memory (t.announce_refuse_machine inst)
  | halted hd => rfl

theorem ending_abreast (h : Ending t r) (hab : Abreast t v) :
    ∃ r', Ending v r' ∧ EndTogether r r' := by
  have hmem := hab.program.memory
  have hpc := hab.program.pc
  -- what decodes is the same, and registers do not decide whether an operand is good
  have hstate : v.machine.state = t.machine.state := hab.running.2.trans hab.running.1.symm
  cases h with
  | undecoded hd =>
    have hd' := hd
    rw [← hmem, ← hpc] at hd'
    refine ⟨_, .undecoded hd', rfl, ?_, ?_, ?_⟩
    all_goals simp only [finalSession, v.traced_machine, t.traced_machine]
    · exact hpc
    · exact hstate
    · exact hmem
  | @stray inst reg hd hreg =>
    have hd' := hd
    rw [← hmem, ← hpc] at hd'
    refine ⟨_, .stray hd' hreg, rfl, ?_, ?_, ?_⟩
    all_goals simp only [finalSession, v.announce_machine, t.announce_machine]
    · exact hpc
    · exact hstate
    · exact hmem
  | refused hd hnamed hfull =>
    -- the stream takes everything
    rw [Sink.hasRoomFor_of_none hab.unlimited.1] at hfull
    cases hfull
  | halted hd =>
    have hd' := hd
    rw [← hmem, ← hpc] at hd'
    refine ⟨_, .halted hd', rfl, ?_, rfl, hmem⟩
    -- the program counter stays, or goes to 0 in both
    show (if v.machine.haltResetsPc then 0 else v.machine.pc) =
      if t.machine.haltResetsPc then 0 else t.machine.pc
    rw [hab.program.resets, hpc]

/-! ## Whole runs -/

/--
**The way of a run does not depend on registers.** Take two sessions with the same program at the
same place, the same rule for `HLT` and streams without limit; registers, stack pointer, counters,
run state and what was written so far may be different. If the run of the first retires no `PUSH`,
the run of the second decodes the same instructions at the same addresses and ends with the same
fault or as well without one, with the same program counter and run state, and memory is in both as
it was.

Every counter grows by the same amount in both, and the greatest depth in neither; and as many lines
are printed.
-/
theorem run_independent_of_registers {s u : Session} (hsame : SameProgram s.machine u.machine)
    (hs : s.output.room = none) (hu : u.output.room = none)
    (hpush : ∀ inst ∈ retiredIn s, inst.isPush = false) :
    decodedIn u = decodedIn s ∧
    EndTogether (run s) (run u) ∧
    (finalSession (run s)).machine.memory = s.machine.memory ∧
    (∃ added : Statistics, added.maxDepth = 0 ∧
      (finalSession (run s)).machine.statistics = s.machine.statistics.plus added ∧
      (finalSession (run u)).machine.statistics = u.machine.statistics.plus added) ∧
    ∃ text text',
      (finalSession (run s)).output.written = s.output.written ++ text ∧
      (finalSession (run u)).output.written = u.output.written ++ text' ∧
      text.count '\n' = text'.count '\n' := by
  obtain ⟨past, t, trail, hpath, hending, -, hdecoded, hretired, -⟩ := exists_course s
  have hpushPath : ∀ inst ∈ instructionsOf trail, inst.isPush = false := by
    intro inst hinst
    exact hpush inst (hretired ▸ List.mem_append_left _ hinst)
  -- the runs begin abreast, and so they come to their endings
  have hstart : Abreast s.started u.started :=
    ⟨⟨hsame.memory, hsame.pc, hsame.resets⟩, ⟨rfl, rfl⟩, hs, hu⟩
  obtain ⟨v, hv, habreast⟩ := path_abreast hpath hstart hpushPath
  obtain ⟨r', hending', htogether⟩ := ending_abreast hending habreast
  obtain rfl : run u = r' := run_eq_of_ending hv hending'
  obtain ⟨_, -, hdecoded', hretired', -⟩ := course_of_ending hv hending'
  -- also the last step decodes and retires the same
  have hfetched : v.fetched = t.fetched := by
    unfold Session.fetched
    rw [habreast.program.memory, habreast.program.pc]
  have hretiring : v.retiring = t.retiring := by
    rw [retiring_of_ending hending' habreast.running.2, retiring_of_ending hending habreast.running.1,
      htogether.fault]
  have hsameRetired : retiredIn u = retiredIn s := by rw [hretired', hretired, hretiring]
  refine ⟨by rw [hdecoded', hdecoded, hfetched], htogether, ?_, ?_, ?_⟩
  · rw [ending_memory hending, path_memory_of_not_push hpath hpushPath]
    rfl
  · refine ⟨(retiredIn s).foldl Statistics.record .zero,
      Statistics.foldl_record_maxDepth_of_not_push hpush _, ?_, ?_⟩
    · rw [statistics_run, Statistics.foldl_record_plus hpush]
    · rw [statistics_run, hsameRetired, Statistics.foldl_record_plus hpush]
  · refine ⟨printedIn s, printedIn u, written_of_unlimited s hs, written_of_unlimited u hu, ?_⟩
    rw [count_feed_printedIn, count_feed_printedIn, hsameRetired]

/-- A new machine that sets R0, multiplies R1 by it, pops into R2 and prints R1. -/
def popsAndPrints : Session where
  machine :=
    { ofConfig {} with
      memory := (Memory.zero.load [130, 0, 8, 162, 1, 0, 70, 2, 71, 1, 1]).toOption.getD .zero }

/-- A machine with the same program that was stopped; it has other registers, counters and output,
and its stack begins in the program. -/
def popsItsProgram : Session where
  machine :=
    { popsAndPrints.machine with
      registers := ⟨#v[9, 3, 0, 0, 0, 0, 255, 2]⟩
      state := .halted
      statistics := ([.push 0, .push 1, .print 0] : List Instruction).foldl Statistics.record .zero }
  output := { written := ['9', '\n'] }

/-- What is popped and printed differs, and the way of the run does not. -/
theorem run_independent_of_registers_popsItsProgram :
    (finalSession (run popsAndPrints)).output.written = "0\n".toList ∧
    (finalSession (run popsItsProgram)).output.written = "9\n24\n".toList ∧
    (finalSession (run popsAndPrints)).machine.registers ≠
      (finalSession (run popsItsProgram)).machine.registers ∧
    decodedIn popsItsProgram = decodedIn popsAndPrints ∧
    EndTogether (run popsAndPrints) (run popsItsProgram) ∧
    (finalSession (run popsAndPrints)).machine.memory = popsAndPrints.machine.memory := by
  have hpush : ∀ inst ∈ retiredIn popsAndPrints, inst.isPush = false := by
    decide +kernel
  have hall := run_independent_of_registers (s := popsAndPrints) (u := popsItsProgram)
    ⟨rfl, rfl, rfl⟩ rfl rfl hpush
  obtain ⟨hdecoded, htogether, hmemory, -⟩ := hall
  refine ⟨?_, ?_, ?_, hdecoded, htogether, hmemory⟩
  · decide +kernel
  · decide +kernel
  · decide +kernel

end Machine

end Ls8
