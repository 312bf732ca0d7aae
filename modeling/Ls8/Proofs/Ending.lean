import Ls8.Proofs.Trail

/-!
# How runs end

A run comes to its end in one of four ways: nothing decodes, an operand names no register, the
stream refuses a line, or `HLT` stands at the program counter. Which of them it is, and what it
leaves of the machine, depends on the machine and on the room in the stream alone.

Main results:

* `step_fails_iff` — the three ways in which a step fails, each with the session that it leaves.
* `last_iff_ending` — the four ways in which a run ends.
* `exists_path_ending`, `run_eq_of_ending` — a run is a path and the ending behind it.
* `ending_again` — without limit on the output a run ends alike wherever the machine is the same.
-/

namespace Ls8

namespace Session

/-- The session in which the stream took only a part of what an instruction prints. -/
def refuse (s : Session) (inst : Instruction) : Session :=
  { s with output := s.output.write (s.machine.printed inst) }

theorem announce_refuse_machine (s : Session) (inst : Instruction) :
    ((s.announce inst).refuse inst).machine = s.machine := s.announce_machine inst

theorem announce_refuse_output (s : Session) (inst : Instruction) :
    ((s.announce inst).refuse inst).output = s.output.write (s.machine.printed inst) := by
  show (s.announce inst).output.write ((s.announce inst).machine.printed inst) = _
  rw [s.announce_output, s.announce_machine]

end Session

namespace Machine

open Ls8.Action

/-- The fault that a run ended with, if it did. -/
def fault? : Outcome → Option Fault
  | .ok _ _ => none
  | .error f _ => some f

/-- The four ways in which the step from `t` can end a run. -/
inductive Ending (t : Session) : Outcome → Prop
  | undecoded {f : Fault} (fetch : t.machine.memory.decode t.machine.pc = .error f) :
      Ending t (.error f t.traced)
  | stray {inst : Instruction} {reg : UInt8}
      (fetch : t.machine.memory.decode t.machine.pc = .ok inst)
      (found : inst.stray? = some reg) :
      Ending t (.error (.invalidRegister reg) (t.announce inst))
  | refused {inst : Instruction}
      (fetch : t.machine.memory.decode t.machine.pc = .ok inst)
      (named : inst.WellNamed)
      (full : t.output.hasRoomFor (t.machine.printed inst) = false) :
      Ending t (.error .outputRefused ((t.announce inst).refuse inst))
  | halted (fetch : t.machine.memory.decode t.machine.pc = .ok .halt) :
      Ending t (notify (.event (.halted (t.retire .halt).machine.statistics.retired))
        (t.retire .halt))

variable {t u : Session} {r : Outcome}

/-- A step fails in one of three ways, and leaves notices and the beginning of a line at most. -/
theorem step_fails_iff {t' : Session} {f : Fault} :
    step t = .error f t' ↔
      t.machine.memory.decode t.machine.pc = .error f ∧ t' = t.traced ∨
      (∃ inst reg, t.machine.memory.decode t.machine.pc = .ok inst ∧ inst.stray? = some reg ∧
        f = .invalidRegister reg ∧ t' = t.announce inst) ∨
      ∃ inst, t.machine.memory.decode t.machine.pc = .ok inst ∧ inst.WellNamed ∧
        t.output.hasRoomFor (t.machine.printed inst) = false ∧ f = .outputRefused ∧
          t' = (t.announce inst).refuse inst := by
  rw [step_eq_error_iff]
  constructor
  · rintro (hd | ⟨inst, hd, he⟩)
    · exact .inl hd
    · -- behind the decoding it is the execution that failed
      rcases execute_eq_error_iff.1 he with ⟨reg, hreg, rfl, rfl⟩ | ⟨hnamed, hfull, rfl, rfl⟩
      · exact .inr (.inl ⟨inst, reg, hd, hreg, rfl, rfl⟩)
      · rw [t.announce_machine, t.announce_output] at hfull
        exact .inr (.inr ⟨inst, hd, hnamed, hfull, rfl, rfl⟩)
  · rintro (hd | ⟨inst, reg, hd, hreg, rfl, rfl⟩ | ⟨inst, hd, hnamed, hfull, rfl, rfl⟩)
    · exact .inl hd
    · exact .inr ⟨inst, hd, execute_of_stray hreg _⟩
    · rw [← t.announce_machine inst, ← t.announce_output inst] at hfull
      exact .inr ⟨inst, hd, execute_eq_error_iff.2 (.inr ⟨hnamed, hfull, rfl, rfl⟩)⟩

/-- The last step of a run of a running machine is one of the four endings. -/
theorem last_iff_ending (hrun : t.machine.state = .running) : Last t r ↔ Ending t r := by
  constructor
  · intro h
    cases h with
    | fault hstep =>
      rcases step_fails_iff.1 hstep with ⟨hd, rfl⟩ | ⟨inst, reg, hd, hreg, rfl, rfl⟩ |
        ⟨inst, hd, hnamed, hfull, rfl, rfl⟩
      · exact .undecoded hd
      · exact .stray hd hreg
      · exact .refused hd hnamed hfull
    | halt hstep =>
      obtain ⟨hd, rfl⟩ := (step_halted_iff hrun).1 hstep
      exact .halted hd
  · intro h
    cases h with
    | undecoded hd => exact .fault (step_fails_iff.2 (.inl ⟨hd, rfl⟩))
    | stray hd hreg => exact .fault (step_fails_iff.2 (.inr (.inl ⟨_, _, hd, hreg, rfl, rfl⟩)))
    | refused hd hnamed hfull =>
      exact .fault (step_fails_iff.2 (.inr (.inr ⟨_, hd, hnamed, hfull, rfl, rfl⟩)))
    | halted hd => exact .halt ((step_halted_iff hrun).2 ⟨hd, rfl⟩)

/-- Every run is a path and one of the four endings. -/
theorem exists_path_ending (s : Session) :
    ∃ trail t, Path s.started trail t ∧ Ending t (run s) := by
  obtain ⟨trail, t, hpath, hlast⟩ := exists_path_last s.started
  rw [← run_eq_runOn] at hlast
  exact ⟨trail, t, hpath, (last_iff_ending (path_running hpath rfl)).1 hlast⟩

/-- The ending behind a path is what the run comes to. -/
theorem run_eq_of_ending {s : Session} {trail : List (Nat × Instruction)}
    (hpath : Path s.started trail t) (h : Ending t r) : run s = r := by
  have hlast := (last_iff_ending (path_running hpath rfl)).2 h
  rw [run_eq_runOn]
  exact runOn_iff_path.2 ⟨trail, t, hpath, hlast⟩

/-- A run decodes what is on its path, and what it found when it ended. -/
theorem decodings_of_ending {s : Session} {trail : List (Nat × Instruction)}
    (hpath : Path s.started trail t) (h : Ending t r) :
    (finalSession r).decodings = s.decodings ++ (trail ++ t.fetched) := by
  have hrun : t.machine.state = .running := path_running hpath rfl
  rw [last_decodings ((last_iff_ending hrun).2 h) hrun, path_decodings hpath, List.append_assoc]
  rfl

/-- Without limit on the output a run ends alike, in fault and machine, wherever the machine is
the same, and its last step prints nothing. -/
theorem ending_again (h : Ending t r) (hroom : t.output.room = none)
    (hm : u.machine = t.machine) :
    ∃ r', Ending u r' ∧ fault? r' = fault? r ∧
      (finalSession r').machine = (finalSession r).machine ∧
      (finalSession r').output = u.output ∧ (finalSession r).output = t.output := by
  cases h with
  | undecoded hd =>
    rw [← hm] at hd
    refine ⟨_, .undecoded hd, rfl, ?_, u.traced_output, t.traced_output⟩
    show u.traced.machine = t.traced.machine
    rw [u.traced_machine, t.traced_machine, hm]
  | @stray inst reg hd hreg =>
    rw [← hm] at hd
    refine ⟨_, .stray hd hreg, rfl, ?_, u.announce_output inst, t.announce_output inst⟩
    show (u.announce inst).machine = (t.announce inst).machine
    rw [u.announce_machine, t.announce_machine, hm]
  | refused hd hnamed hfull =>
    -- a stream without limit takes every line
    rw [Sink.hasRoomFor_of_none hroom] at hfull
    cases hfull
  | halted hd =>
    rw [← hm] at hd
    refine ⟨_, .halted hd, rfl, ?_, u.output.write_nil, t.output.write_nil⟩
    show (u.machine.effect .halt).retire .halt = (t.machine.effect .halt).retire .halt
    rw [hm]

end Machine

end Ls8
