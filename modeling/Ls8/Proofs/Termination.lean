import Ls8.Proofs.Atomicity

/-!
# Runs end

There is no jump, and every instruction but `HLT` takes at least two bytes of the 256, so a run ends
soon whatever the program does to its own code: the program counter is the measure. An instruction
that decodes lies inside memory altogether, hence the last one that a run retires begins at 255 or
before, and the bound counts from 257: `HLT` takes a single byte.

Main results:

* `last_decodings` — the last step of a run logs the instruction that it found, if it found one.
* `run_terminates` — the bound on the retired instructions, and the order of their addresses.
-/

namespace Ls8

namespace Session

/-- The instructions that were decoded so far, each with its address, as the log has them. -/
def decodings (s : Session) : List (Nat × Instruction) :=
  s.events.filterMap fun
    | .decoded addr inst => some (addr, inst)
    | _ => none

/-- What the next step would decode. -/
def fetched (s : Session) : List (Nat × Instruction) :=
  match s.machine.memory.decode s.machine.pc with
  | .ok inst => [(s.machine.pc, inst)]
  | .error _ => []

theorem announce_decodings (s : Session) (inst : Instruction) :
    (s.announce inst).decodings = s.decodings ++ [(s.machine.pc, inst)] := by
  rw [decodings, announce_events, List.filterMap_append]
  rfl

theorem traced_decodings (s : Session) : s.traced.decodings = s.decodings := by
  rw [decodings, traced_events]
  rfl

theorem note_halted_decodings (s : Session) (n : Nat) :
    (s.note (.event (.halted n))).decodings = s.decodings := by
  rw [decodings, events_note_event, List.filterMap_append]
  exact List.append_nil _

end Session

namespace Machine

open Ls8.Action

/-- The session in which a run ends. -/
def finalSession : Outcome → Session
  | .ok _ s => s
  | .error _ s => s

/-! ## What was decoded -/

theorem path_decodings {s t : Session} {trail : List (Nat × Instruction)} (h : Path s trail t) :
    t.decodings = s.decodings ++ trail := by
  rw [Session.decodings, path_events h, List.filterMap_append, List.filterMap_map]
  congr 1
  exact List.filterMap_some

/-- The last step of a run logs the instruction that it found, if it found one. -/
theorem last_decodings {t : Session} {r : Outcome} (h : Last t r)
    (hrun : t.machine.state = .running) :
    (finalSession r).decodings = t.decodings ++ t.fetched := by
  cases h with
  | @fault t' f hstep =>
    rcases step_eq_error_iff.1 hstep with ⟨hd, rfl⟩ | ⟨inst, hd, he⟩
    · rw [Session.fetched, hd, List.append_nil]
      exact t.traced_decodings
    · -- the instruction was logged before it failed
      have hsame : t'.decodings = (t.announce inst).decodings := by
        rcases execute_eq_error_iff.1 he with ⟨_, -, -, rfl⟩ | ⟨-, -, -, rfl⟩ <;> rfl
      rw [Session.fetched, hd]
      exact hsame.trans (t.announce_decodings inst)
  | halt hstep =>
    obtain ⟨hd, rfl⟩ := (step_halted_iff hrun).1 hstep
    rw [Session.fetched, hd]
    exact (Session.note_halted_decodings _ _).trans (t.announce_decodings .halt)

/-! ## The bound -/

/-- A path and the last step behind it retire one instruction for every two bytes, and one more if
the last is a `HLT` in the last cell. -/
theorem last_retired_le {s t : Session} {trail : List (Nat × Instruction)} {r : Outcome}
    (h : Path s trail t) (hlast : Last t r) (hrun : t.machine.state = .running) :
    (finalSession r).machine.statistics.retired ≤
      s.machine.statistics.retired + (257 - s.machine.pc) / 2 := by
  -- the path takes two bytes for every instruction and does not lead past the end of memory
  have hcount := path_retired h
  have hfrom := path_pc_le h
  have hto := path_pc_le_max h
  cases hlast with
  | @fault t' f hstep =>
    show t'.machine.statistics.retired ≤ _
    rw [atomic_step t f t' hstep]
    have hsize : Memory.size = 256 := rfl
    omega
  | halt hstep =>
    obtain ⟨hd, rfl⟩ := (step_halted_iff hrun).1 hstep
    -- with its one byte the `HLT` still has to be inside
    have hlt : t.machine.pc < 256 := Memory.lt_size_of_decode hd
    show (t.machine.statistics.record .halt).retired ≤ _
    rw [record_retired]
    omega

theorem last_pc_le {t : Session} {r : Outcome} (h : Last t r) (hrun : t.machine.state = .running) :
    (finalSession r).machine.pc ≤ t.machine.pc := by
  cases h with
  | @fault t' f hstep =>
    show t'.machine.pc ≤ _
    exact Nat.le_of_eq (congrArg pc (atomic_step t f t' hstep))
  | halt hstep =>
    obtain ⟨-, rfl⟩ := (step_halted_iff hrun).1 hstep
    show (if t.machine.haltResetsPc then 0 else t.machine.pc) ≤ _
    split
    · exact Nat.zero_le _
    · exact Nat.le_refl _

/-- The addresses of a path and of the instruction behind it are in strict order. -/
theorem path_fetched_increasing {s t : Session} {trail : List (Nat × Instruction)}
    (h : Path s trail t) : ((trail ++ t.fetched).map Prod.fst).Pairwise (· < ·) := by
  obtain ⟨hsorted, hbounds⟩ := path_increasing h
  rw [List.map_append]
  cases hd : t.machine.memory.decode t.machine.pc with
  | error f =>
    rw [Session.fetched, hd, List.map_nil, List.append_nil]
    exact hsorted
  | ok inst =>
    rw [Session.fetched, hd, List.pairwise_append]
    refine ⟨hsorted, List.pairwise_singleton _ _, fun addr haddr b hb => ?_⟩
    obtain rfl := List.mem_singleton.1 hb
    exact (hbounds addr haddr).2

/--
**Every run ends.** From any session a run is a finite path and one last step. It retires at most
`(257 - pc) / 2` instructions, none for a program counter past 256; the addresses of the
instructions that it decodes are in strict order, so none is executed twice; and the program counter
never passes 256 unless it had done so from the beginning.
-/
theorem run_terminates (s : Session) :
    (∃ trail t, Path s.started trail t ∧ Last t (run s)) ∧
    (finalSession (run s)).machine.statistics.retired ≤
      s.machine.statistics.retired + (257 - s.machine.pc) / 2 ∧
    (∃ decoded, (finalSession (run s)).decodings = s.decodings ++ decoded ∧
      (decoded.map Prod.fst).Pairwise (· < ·)) ∧
    (finalSession (run s)).machine.pc ≤ max s.machine.pc 256 ∧
    ∀ trail t, Path s.started trail t → t.machine.pc ≤ max s.machine.pc 256 := by
  obtain ⟨trail, t, hpath, hlast⟩ := exists_path_last s.started
  rw [← run_eq_runOn] at hlast
  -- of the last step the rest needs that it found the machine running
  have hrun : t.machine.state = .running := path_running hpath rfl
  have hretired := last_retired_le hpath hlast hrun
  have hdecoded : (finalSession (run s)).decodings = s.decodings ++ (trail ++ t.fetched) := by
    rw [last_decodings hlast hrun, path_decodings hpath, List.append_assoc]
    rfl
  have hpoint : ∀ trail' u, Path s.started trail' u → u.machine.pc ≤ max s.machine.pc 256 := by
    intro trail' u h
    have hle := path_pc_le_max h
    exact hle
  exact ⟨⟨trail, t, hpath, hlast⟩, hretired, ⟨_, hdecoded, path_fetched_increasing hpath⟩,
    Nat.le_trans (last_pc_le hlast hrun) (hpoint trail t hpath), hpoint⟩

end Machine

end Ls8
