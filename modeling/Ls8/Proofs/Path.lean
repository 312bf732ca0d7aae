import Ls8.Proofs.Step

/-!
# Paths

A run is a path of steps that leave the machine running, and one more step that faults or halts. A
path carries the instructions that it retires, each with the address at which it was decoded, so
what holds of every run is proved by induction on paths, one retired instruction at a time.

Main results:

* `runOn_iff_path` — the result of a run is that of the last step behind some path.
* `path_running`, `path_events`, `path_statistics` — what a path leaves in run state, log and
  counters.
* `path_pc_le`, `path_increasing` — along a path the program counter moves on by two or three at
  every instruction, and ends inside memory or right behind it.
-/

namespace Ls8

/-- The session in which a run begins: as found, but running. -/
def Session.started (s : Session) : Session :=
  { s with machine := { s.machine with state := .running } }

namespace Machine

open Ls8.Action

/-- What a run comes to. -/
abbrev Outcome := EStateM.Result Fault Session Unit

/-! ## Paths and last steps -/

/-- `Path s trail t`: steps that leave the machine running lead from `s` to `t`. The trail has the
instructions that they retired, each with its address. -/
inductive Path : Session → List (Nat × Instruction) → Session → Prop
  | nil (s : Session) : Path s [] s
  | cons {s s' t : Session} {inst : Instruction} {trail : List (Nat × Instruction)}
      (decoded : s.machine.memory.decode s.machine.pc = .ok inst)
      (passed : step s = .ok .running s') (rest : Path s' trail t) :
      Path s ((s.machine.pc, inst) :: trail) t

/-- `Last t r`: the step from `t` ends a run, which comes to `r`. -/
inductive Last : Session → Outcome → Prop
  | fault {t t' : Session} {f : Fault} (failed : step t = .error f t') : Last t (.error f t')
  | halt {t t' : Session} (stopped : step t = .ok .halted t') :
      Last t (notify (.event (.halted t'.machine.statistics.retired)) t')

theorem run_eq_runOn (s : Session) : run s = runOn s.started := rfl

/-- Every run has a last step. -/
theorem exists_path_last (s : Session) : ∃ trail t, Path s trail t ∧ Last t (runOn s) := by
  -- on the recursion of `runOn`: the first two cases stop, the third goes on
  fun_induction runOn s with
  | case1 s f s' h => exact ⟨[], s, .nil s, .fault h⟩
  | case2 s s' h => exact ⟨[], s, .nil s, .halt h⟩
  | case3 s s' h ih =>
    obtain ⟨trail, t, hpath, hlast⟩ := ih
    obtain ⟨inst, hpass, -⟩ := step_running_iff.1 h
    exact ⟨_, t, .cons hpass.decoded h hpath, hlast⟩

/-- A run goes on wherever a path from its beginning has come to. -/
theorem runOn_of_path {s t : Session} {trail : List (Nat × Instruction)} (h : Path s trail t) :
    runOn s = runOn t := by
  induction h with
  | nil s => rfl
  | cons _ hstep _ ih =>
    rw [runOn_eq, hstep]
    exact ih

theorem runOn_of_last {t : Session} {r : Outcome} (h : Last t r) : runOn t = r := by
  cases h with
  | fault h => rw [runOn_eq, h]
  | halt h => rw [runOn_eq, h]

/-- The result of a run is that of the last step behind some path. -/
theorem runOn_iff_path {s : Session} {r : Outcome} :
    runOn s = r ↔ ∃ trail t, Path s trail t ∧ Last t r := by
  constructor
  · rintro rfl
    exact exists_path_last s
  · rintro ⟨trail, t, hpath, hlast⟩
    rw [runOn_of_path hpath, runOn_of_last hlast]

/-! ## One instruction of a path -/

theorem path_nil_iff {s t : Session} : Path s [] t ↔ t = s := by
  constructor
  · intro h
    cases h
    rfl
  · rintro rfl
    exact .nil _

/-- A path begins with an instruction that passes, and goes on from the session behind that. -/
theorem path_cons_iff {s t : Session} {addr : Nat} {inst : Instruction}
    {trail : List (Nat × Instruction)} :
    Path s ((addr, inst) :: trail) t ↔
      addr = s.machine.pc ∧ Passes s inst ∧ Path (s.retire inst) trail t := by
  constructor
  · intro h
    cases h with
    | cons hd hstep hrest =>
      obtain ⟨inst', hpass, rfl⟩ := step_running_iff.1 hstep
      obtain rfl : inst' = inst := Except.ok.inj (hpass.decoded.symm.trans hd)
      exact ⟨rfl, hpass, hrest⟩
  · rintro ⟨rfl, hpass, hrest⟩
    exact .cons hpass.decoded (step_running_iff.2 ⟨inst, hpass, rfl⟩) hrest

/-- Induction on a path by the instructions that it retires. -/
@[elab_as_elim]
theorem path_induction {motive : ∀ s trail t, Path s trail t → Prop}
    (nil : ∀ s, motive s [] s (.nil s))
    (cons : ∀ s inst trail t (passes : Passes s inst) (rest : Path (s.retire inst) trail t),
      motive (s.retire inst) trail t rest →
        motive s ((s.machine.pc, inst) :: trail) t (path_cons_iff.2 ⟨rfl, passes, rest⟩))
    {s : Session} {trail : List (Nat × Instruction)} {t : Session} (h : Path s trail t) :
    motive s trail t h := by
  induction trail generalizing s with
  | nil =>
    obtain rfl := path_nil_iff.1 h
    exact nil t
  | cons head trail ih =>
    obtain ⟨addr, inst⟩ := head
    obtain ⟨rfl, passes, rest⟩ := path_cons_iff.1 h
    exact cons s inst trail t passes rest (ih rest)

/-! ## What a path leaves -/

theorem retire_pc {s : Session} {inst : Instruction} (h : Passes s inst) :
    (s.retire inst).machine.pc = s.machine.pc + inst.width :=
  effect_pc h.goesOn s.machine

theorem retire_running {s : Session} {inst : Instruction} (h : Passes s inst) :
    (s.retire inst).machine.state = .running :=
  (effect_state h.goesOn s.machine).trans h.running

theorem path_running {s t : Session} {trail : List (Nat × Instruction)} (h : Path s trail t)
    (hrun : s.machine.state = .running) : t.machine.state = .running := by
  induction h using path_induction with
  | nil s => exact hrun
  | cons s inst trail t hpass hrest ih => exact ih (retire_running hpass)

/-- A path logs the instructions that it retires, and nothing else. -/
theorem path_events {s t : Session} {trail : List (Nat × Instruction)} (h : Path s trail t) :
    t.events = s.events ++ trail.map fun (addr, inst) => .decoded addr inst := by
  induction h using path_induction with
  | nil s => simp
  | cons s inst trail t hpass hrest ih => rw [ih, Session.retire_events]; simp

/-- A path counts the instructions that it retires, in order. -/
theorem path_statistics {s t : Session} {trail : List (Nat × Instruction)} (h : Path s trail t) :
    t.machine.statistics =
      (trail.map Prod.snd).foldl Statistics.record s.machine.statistics := by
  induction h using path_induction with
  | nil s => rfl
  | cons s inst trail t hpass hrest ih =>
    rw [ih, List.map_cons, List.foldl_cons]
    congr 1
    show (s.machine.effect inst).statistics.record inst = _
    rw [effect_statistics]

theorem record_retired (st : Statistics) (inst : Instruction) :
    (st.record inst).retired = st.retired + 1 := by
  cases inst <;> rfl

theorem foldl_record_retired (st : Statistics) (insts : List Instruction) :
    (insts.foldl Statistics.record st).retired = st.retired + insts.length := by
  induction insts generalizing st with
  | nil => rfl
  | cons inst insts ih =>
    rw [List.foldl_cons, ih, record_retired, List.length_cons]
    omega

theorem path_retired {s t : Session} {trail : List (Nat × Instruction)} (h : Path s trail t) :
    t.machine.statistics.retired = s.machine.statistics.retired + trail.length := by
  rw [path_statistics h, foldl_record_retired, List.length_map]

/-! ## Where a path leads -/

/-- Every instruction of a path takes two bytes or three. -/
theorem path_pc_le {s t : Session} {trail : List (Nat × Instruction)} (h : Path s trail t) :
    s.machine.pc + 2 * trail.length ≤ t.machine.pc := by
  induction h using path_induction with
  | nil s => exact Nat.le_refl _
  | cons s inst trail t hpass hrest ih =>
    have hwidth := Instruction.two_le_width hpass.goesOn
    rw [retire_pc hpass] at ih
    rw [List.length_cons]
    omega

/-- A path ends where it began, or no further than right behind memory. -/
theorem path_pc_le_max {s t : Session} {trail : List (Nat × Instruction)} (h : Path s trail t) :
    t.machine.pc ≤ max s.machine.pc Memory.size := by
  induction h using path_induction with
  | nil s => exact Nat.le_max_left _ _
  | cons s inst trail t hpass hrest ih =>
    -- the instruction was decoded, so it lies inside memory to its last byte
    have hend := Memory.add_width_le_of_decode hpass.decoded
    rw [retire_pc hpass] at ih
    omega

/-- The addresses of a path are those from its beginning up to its end, in strict order. -/
theorem path_increasing {s t : Session} {trail : List (Nat × Instruction)} (h : Path s trail t) :
    (trail.map Prod.fst).Pairwise (· < ·) ∧
      ∀ addr ∈ trail.map Prod.fst, s.machine.pc ≤ addr ∧ addr < t.machine.pc := by
  induction h using path_induction with
  | nil s => exact ⟨List.Pairwise.nil, fun _ h => nomatch h⟩
  | cons s inst trail t hpass hrest ih =>
    obtain ⟨hsorted, hbounds⟩ := ih
    -- all other addresses lie behind the first instruction, hence above its address
    have hwidth := inst.one_le_width
    have hend := path_pc_le hrest
    rw [retire_pc hpass] at hbounds hend
    rw [List.map_cons]
    refine ⟨List.pairwise_cons.2 ⟨fun addr haddr => ?_, hsorted⟩, fun addr haddr => ?_⟩
    · have := (hbounds addr haddr).1
      omega
    · rcases List.mem_cons.1 haddr with rfl | hlater
      · omega
      · have := hbounds addr hlater
        omega

end Machine

end Ls8
