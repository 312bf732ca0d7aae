import Ls8.Proofs.Ending

/-!
# The course of a run

A run goes through sessions and takes one step from each; the last of these steps ends it. What the
run decodes, retires and prints is what its steps decode, retire and print, in order.

An instruction may be decoded and yet not be retired, when it fails. That can only be the last one of
a run; and the last one is retired only if it is a `HLT`.

Main results:

* `course_of_ending` — the course of a run is made up of a path and the session of its ending.
* `statistics_run` — the counters have what the run retires.
-/

namespace Ls8

namespace Session

/-- The instruction that the next step retires: the one that it decodes, unless the step fails. -/
def retiring (s : Session) : List Instruction :=
  match Machine.step s with
  | .ok _ _ => s.fetched.map Prod.snd
  | .error _ _ => []

/-- What the next step prints for the instruction that it retires. -/
def printing (s : Session) : List Char := s.retiring.flatMap s.machine.printed

theorem fetched_of_decode {s : Session} {inst : Instruction}
    (h : s.machine.memory.decode s.machine.pc = .ok inst) : s.fetched = [(s.machine.pc, inst)] := by
  rw [fetched, h]

theorem fetched_of_decode_error {s : Session} {f : Fault}
    (h : s.machine.memory.decode s.machine.pc = .error f) : s.fetched = [] := by
  rw [fetched, h]

theorem retiring_of_ok {s s' : Session} {r : RunState} (h : Machine.step s = .ok r s') :
    s.retiring = s.fetched.map Prod.snd := by
  rw [retiring, h]

theorem retiring_of_error {s s' : Session} {f : Fault} (h : Machine.step s = .error f s') :
    s.retiring = [] := by
  rw [retiring, h]

end Session

namespace Machine

open Ls8.Action

/-! ## Sessions on the way -/

/-- The sessions from which a run takes its steps when it goes on in `s`, in order. -/
def courseFrom (s : Session) : List Session :=
  match _h : step s with
  | .error _ _ => [s]
  | .ok .halted _ => [s]
  | .ok .running s' => s :: courseFrom s'
termination_by Memory.size - s.machine.pc
decreasing_by
  have := step_running _h
  omega

/-- The sessions from which a run takes its steps, in order. -/
def course (s : Session) : List Session := courseFrom s.started

/-- The instructions that a run decodes, each with its address. -/
def decodedIn (s : Session) : List (Nat × Instruction) := (course s).flatMap Session.fetched

/-- The instructions that a run retires. -/
def retiredIn (s : Session) : List Instruction := (course s).flatMap Session.retiring

/-- What a run prints for the instructions that it retires. -/
def printedIn (s : Session) : List Char := (course s).flatMap Session.printing

variable {s t : Session} {trail : List (Nat × Instruction)} {inst : Instruction} {r : Outcome}

theorem courseFrom_of_passes (h : Passes s inst) :
    courseFrom s = s :: courseFrom (s.retire inst) := by
  have hstep := step_running_iff.2 ⟨inst, h, rfl⟩
  rw [courseFrom]
  split <;> simp_all

theorem courseFrom_of_last (h : Last t r) : courseFrom t = [t] := by
  rw [courseFrom]
  cases h with
  | fault hstep => split <;> simp_all
  | halt hstep => split <;> simp_all

/-! ## What a step adds -/

theorem retiring_of_passes (h : Passes s inst) : s.retiring = [inst] := by
  rw [Session.retiring_of_ok (step_running_iff.2 ⟨inst, h, rfl⟩), Session.fetched_of_decode h.decoded]
  rfl

theorem printing_of_passes (h : Passes s inst) : s.printing = s.machine.printed inst := by
  rw [Session.printing, retiring_of_passes h, List.flatMap_singleton]

/-- Of the steps that end a run, only that of a `HLT` retires its instruction. -/
theorem retiring_of_ending (h : Ending t r) (hrun : t.machine.state = .running) :
    t.retiring = if fault? r = none then [.halt] else [] := by
  have hlast := (last_iff_ending hrun).2 h
  cases hlast with
  | fault hstep => exact Session.retiring_of_error hstep
  | halt hstep =>
    obtain ⟨hd, -⟩ := (step_halted_iff hrun).1 hstep
    rw [Session.retiring_of_ok hstep, Session.fetched_of_decode hd]
    rfl

theorem printing_of_ending (h : Ending t r) (hrun : t.machine.state = .running) :
    t.printing = [] := by
  rw [Session.printing, retiring_of_ending h hrun]
  split <;> rfl

/-! ## The whole course -/

/-- The sessions on a path are the first of the course, and the trail has what they retire. -/
theorem courseFrom_of_path (h : Path s trail t) :
    ∃ past, courseFrom s = past ++ courseFrom t ∧ past.flatMap Session.fetched = trail ∧
      past.flatMap Session.retiring = instructionsOf trail ∧
      past.flatMap Session.printing = s.machine.transcript (instructionsOf trail) := by
  induction h using path_induction with
  | nil s => exact ⟨[], rfl, rfl, rfl, rfl⟩
  | cons s inst trail t hpass hrest ih =>
    obtain ⟨past, hcourse, hfetched, hretiring, hprinting⟩ := ih
    refine ⟨s :: past, ?_, ?_, ?_, ?_⟩
    · rw [courseFrom_of_passes hpass, hcourse]
      rfl
    · rw [List.flatMap_cons, hfetched, Session.fetched_of_decode hpass.decoded]
      rfl
    · rw [List.flatMap_cons, hretiring, retiring_of_passes hpass]
      rfl
    · rw [List.flatMap_cons, hprinting, printing_of_passes hpass]
      rfl

/-- Of a path and the session of its ending, the course of a run is made up. -/
theorem course_of_ending (hpath : Path s.started trail t) (hending : Ending t (run s)) :
    ∃ past, course s = past ++ [t] ∧ decodedIn s = trail ++ t.fetched ∧
      retiredIn s = instructionsOf trail ++ t.retiring ∧
      printedIn s = s.started.machine.transcript (instructionsOf trail) := by
  have hrun : t.machine.state = .running := path_running hpath rfl
  have hlast : courseFrom t = [t] := courseFrom_of_last ((last_iff_ending hrun).2 hending)
  obtain ⟨past, hcourse, hfetched, hretiring, hprinting⟩ := courseFrom_of_path hpath
  have hwhole : course s = past ++ [t] := by rw [course, hcourse, hlast]
  refine ⟨past, hwhole, ?_, ?_, ?_⟩
  · rw [decodedIn, hwhole, List.flatMap_append, hfetched, List.flatMap_singleton]
  · rw [retiredIn, hwhole, List.flatMap_append, hretiring, List.flatMap_singleton]
  · rw [printedIn, hwhole, List.flatMap_append, hprinting, List.flatMap_singleton,
      printing_of_ending hending hrun, List.append_nil]

theorem exists_course (s : Session) :
    ∃ past t trail, Path s.started trail t ∧ Ending t (run s) ∧ course s = past ++ [t] ∧
      decodedIn s = trail ++ t.fetched ∧
      retiredIn s = instructionsOf trail ++ t.retiring ∧
      printedIn s = s.started.machine.transcript (instructionsOf trail) := by
  obtain ⟨trail, t, hpath, hending⟩ := exists_path_ending s
  obtain ⟨past, hcourse⟩ := course_of_ending hpath hending
  exact ⟨past, t, trail, hpath, hending, hcourse⟩

/-! ## Counters -/

theorem statistics_of_ending (h : Ending t r) (hrun : t.machine.state = .running) :
    (finalSession r).machine.statistics = t.retiring.foldl Statistics.record t.machine.statistics := by
  rw [retiring_of_ending h hrun]
  -- three of the endings change no counter, and a `HLT` is counted
  cases h with
  | undecoded hd => exact congrArg statistics t.traced_machine
  | @stray inst reg hd hreg => exact congrArg statistics (t.announce_machine inst)
  | @refused inst hd hnamed hfull => exact congrArg statistics (t.announce_refuse_machine inst)
  | halted hd => rfl

theorem statistics_run (s : Session) :
    (finalSession (run s)).machine.statistics =
      (retiredIn s).foldl Statistics.record s.machine.statistics := by
  obtain ⟨past, t, trail, hpath, hending, -, -, hretired, -⟩ := exists_course s
  -- the path is counted first, and then the last step
  rw [statistics_of_ending hending (path_running hpath rfl), path_statistics hpath, hretired,
    List.foldl_append]
  rfl

end Machine

end Ls8
