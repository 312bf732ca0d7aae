import Ls8.Proofs.Effect

/-!
# Steps

One step in terms of the effect of its instruction. A step first shows its trace line, decodes,
logs what it decoded, executes, and counts; `Session.retire` is the session behind all of that.

Main results:

* `step_eq_ok_iff`, `step_eq_error_iff` — how a step ends, and what it leaves.
* `step_running_iff`, `step_halted_iff` — a running machine goes on behind every instruction but
  `HLT`, and stops at that.
-/

namespace Ls8

namespace Session

/-! ## Sessions around a step -/

/-- The session with the trace line of its machine, if tracing is on. -/
def traced (s : Session) : Session :=
  if s.machine.tracing then s.note (.trace s.machine.traceLine) else s

/-- The session in which a decoded instruction was logged and is yet to be executed. -/
def announce (s : Session) (inst : Instruction) : Session :=
  s.traced.note (.event (.decoded s.machine.pc inst))

/-- The session after a step that executed an instruction to its end. -/
def retire (s : Session) (inst : Instruction) : Session :=
  { s.announce inst with
    machine := (s.machine.effect inst).retire inst
    output := s.output.write (s.machine.printed inst) }

theorem traced_machine (s : Session) : s.traced.machine = s.machine := by
  unfold traced
  split <;> rfl

theorem traced_output (s : Session) : s.traced.output = s.output := by
  unfold traced
  split <;> rfl

theorem announce_machine (s : Session) (inst : Instruction) :
    (s.announce inst).machine = s.machine := s.traced_machine

theorem announce_output (s : Session) (inst : Instruction) :
    (s.announce inst).output = s.output := s.traced_output

/-! ## Logged events -/

theorem events_note_event (s : Session) (e : Event) :
    (s.note (.event e)).events = s.events ++ [e] := by
  simp [events, note, List.filterMap_append]

/-- Trace lines are no events. -/
theorem traced_events (s : Session) : s.traced.events = s.events := by
  unfold traced
  split
  · simp [events, note, List.filterMap_append]
  · rfl

theorem announce_events (s : Session) (inst : Instruction) :
    (s.announce inst).events = s.events ++ [.decoded s.machine.pc inst] := by
  rw [announce, events_note_event, traced_events]

theorem retire_events (s : Session) (inst : Instruction) :
    (s.retire inst).events = s.events ++ [.decoded s.machine.pc inst] :=
  s.announce_events inst

end Session

namespace Machine

open Ls8.Action

/-! ## How a step ends -/

theorem traceState_eq (s : Session) : traceState s = .ok () s.traced := by
  unfold traceState Session.traced
  split
  · exact notify_eq_ok_iff.2 rfl
  · rfl

/-- A step begins with the trace line and what stands at the program counter. -/
theorem step_eq (s : Session) :
    step s =
      match s.machine.memory.decode s.machine.pc with
      | .error f => .error f s.traced
      | .ok inst =>
        (do execute inst; change (·.retire inst); ask Machine.state : Action RunState)
          (s.announce inst) := by
  rw [step, bind_of_ok (traceState_eq s)]
  cases hd : s.machine.memory.decode s.machine.pc with
  | error f =>
    rw [← s.traced_machine] at hd
    rw [bind_of_error (attempt_of_error hd)]
  | ok inst =>
    rw [← s.traced_machine] at hd
    rw [bind_of_ok (attempt_of_ok hd), bind_of_ok (ask_eq_ok_iff.2 ⟨rfl, rfl⟩),
      bind_of_ok (a := ()) (notify_eq_ok_iff.2 rfl), s.traced_machine]
    rfl

/-- A step succeeds exactly if an instruction decodes whose operands name registers and whose text
the stream takes; it answers the run state behind the instruction. -/
theorem step_eq_ok_iff {s s' : Session} {r : RunState} :
    step s = .ok r s' ↔
      ∃ inst, s.machine.memory.decode s.machine.pc = .ok inst ∧ inst.WellNamed ∧
        s.output.hasRoomFor (s.machine.printed inst) = true ∧
        r = (s.machine.effect inst).state ∧ s' = s.retire inst := by
  rw [step_eq]
  cases hd : s.machine.memory.decode s.machine.pc with
  | error f => simp
  | ok inst =>
    simp only [bind_eq_ok_iff, execute_eq_ok_iff, change_eq_ok_iff, ask_eq_ok_iff,
      s.announce_machine, s.announce_output, Except.ok.injEq]
    constructor
    · rintro ⟨-, _, ⟨hnamed, hroom, rfl⟩, -, _, rfl, hr, rfl⟩
      exact ⟨inst, rfl, hnamed, hroom, hr, rfl⟩
    · rintro ⟨_, rfl, hnamed, hroom, hr, rfl⟩
      exact ⟨(), _, ⟨hnamed, hroom, rfl⟩, (), _, rfl, hr, rfl⟩

/-- A step fails where nothing decodes, or where the decoded instruction fails. -/
theorem step_eq_error_iff {s s' : Session} {f : Fault} :
    step s = .error f s' ↔
      s.machine.memory.decode s.machine.pc = .error f ∧ s' = s.traced ∨
        ∃ inst, s.machine.memory.decode s.machine.pc = .ok inst ∧
          execute inst (s.announce inst) = .error f s' := by
  rw [step_eq]
  cases hd : s.machine.memory.decode s.machine.pc with
  | error f' =>
    constructor
    · intro h
      cases h
      exact Or.inl ⟨rfl, rfl⟩
    · rintro (⟨h, rfl⟩ | ⟨_, h, -⟩)
      · rw [Except.error.inj h]
      · cases h
  | ok inst =>
    -- behind the execution there is nothing left that could fail
    have hrest : ∀ (u : Unit) (s₁ : Session),
        (do change (·.retire inst); ask Machine.state : Action RunState) s₁ ≠ .error f s' :=
      fun _ _ h => nomatch h
    rw [bind_eq_error_iff]
    constructor
    · rintro (h | ⟨u, s₁, -, h⟩)
      · exact Or.inr ⟨inst, rfl, h⟩
      · exact absurd h (hrest u s₁)
    · rintro (⟨h, -⟩ | ⟨_, h, he⟩)
      · cases h
      · rw [Except.ok.inj h]
        exact Or.inl he

/-! ## Steps that go on and steps that stop -/

/-- What an instruction needs for a step to execute it and leave the machine running. -/
structure Passes (s : Session) (inst : Instruction) : Prop where
  decoded : s.machine.memory.decode s.machine.pc = .ok inst
  goesOn  : inst ≠ .halt
  named   : inst.WellNamed
  room    : s.output.hasRoomFor (s.machine.printed inst) = true
  running : s.machine.state = .running

theorem step_running_iff {s s' : Session} :
    step s = .ok .running s' ↔ ∃ inst, Passes s inst ∧ s' = s.retire inst := by
  rw [step_eq_ok_iff]
  constructor
  · rintro ⟨inst, hd, hnamed, hroom, hstate, rfl⟩
    have hi : inst ≠ .halt := by
      rintro rfl
      cases hstate
    rw [effect_state hi] at hstate
    exact ⟨inst, ⟨hd, hi, hnamed, hroom, hstate.symm⟩, rfl⟩
  · rintro ⟨inst, h, rfl⟩
    exact ⟨inst, h.decoded, h.named, h.room, by rw [effect_state h.goesOn, h.running], rfl⟩

/-- A machine that runs is stopped by `HLT` alone. -/
theorem step_halted_iff {s s' : Session} (hrun : s.machine.state = .running) :
    step s = .ok .halted s' ↔
      s.machine.memory.decode s.machine.pc = .ok .halt ∧ s' = s.retire .halt := by
  rw [step_eq_ok_iff]
  constructor
  · rintro ⟨inst, hd, -, -, hstate, rfl⟩
    by_cases hi : inst = .halt
    · exact ⟨hi ▸ hd, hi ▸ rfl⟩
    · rw [effect_state hi, hrun] at hstate
      cases hstate
  · rintro ⟨hd, rfl⟩
    exact ⟨.halt, hd, Instruction.wellNamed_halt, s.output.hasRoomFor_nil, rfl, rfl⟩

end Machine

end Ls8
