import Ls8.Proofs.Sequence
import Ls8.Proofs.Trail

/-!
# Machine code

A run of encoded instructions does what the instructions do one after the other, up to the first
`HLT`. Code and stack share one memory, so this holds as long as no `PUSH` writes over bytes that are
yet to be fetched; what was executed already may be overwritten.

The invariant is `Holds`: at the program counter stand the bytes of the instructions that remain.
`Shadows` says how the run resembles the plain execution next to it, from which it differs in run
state and counters.

Main results:

* `path_of_code` — the run of code without `HLT`, as a path beside the execution of its
  instructions.
* `runOn_untilHalt` — with its `HLT`, as a run.
* `run_refines_execution` — the whole run, from loading to its `HLT`.
-/

namespace Ls8

/-! ## Code -/

/-- The bytes of instructions, one after the other. -/
def codeOf (insts : List Instruction) : List UInt8 := insts.flatMap Instruction.encode

/-- Instructions with the addresses at which their code stands. -/
def located (addr : Nat) : List Instruction → List (Nat × Instruction)
  | [] => []
  | inst :: insts => (addr, inst) :: located (addr + inst.width) insts

/-- The instructions before the first `HLT`. -/
def beforeHalt (insts : List Instruction) : List Instruction := insts.takeWhile (· ≠ .halt)

/-- The instructions up to the first `HLT`, and that. -/
def untilHalt (insts : List Instruction) : List Instruction := beforeHalt insts ++ [.halt]

theorem codeOf_cons (inst : Instruction) (insts : List Instruction) :
    codeOf (inst :: insts) = inst.encode ++ codeOf insts := List.flatMap_cons

theorem codeOf_append (first second : List Instruction) :
    codeOf (first ++ second) = codeOf first ++ codeOf second := List.flatMap_append

theorem located_append (addr : Nat) (first second : List Instruction) :
    located addr (first ++ second) =
      located addr first ++ located (addr + (codeOf first).length) second := by
  induction first generalizing addr with
  | nil => rfl
  | cons inst first ih =>
    rw [List.cons_append, located, ih, located, List.cons_append, codeOf_cons, List.length_append,
      inst.length_encode, Nat.add_assoc]

/-- A program with a `HLT` goes on behind its first one, or ends there. -/
theorem exists_untilHalt_append {insts : List Instruction} (h : .halt ∈ insts) :
    ∃ rest, insts = untilHalt insts ++ rest := by
  induction insts with
  | nil => cases h
  | cons inst insts ih =>
    by_cases hi : inst = .halt
    · subst hi
      exact ⟨insts, rfl⟩
    · have hmem : Instruction.halt ∈ insts := by
        rcases List.mem_cons.1 h with rfl | hmem
        · exact absurd rfl hi
        · exact hmem
      obtain ⟨rest, hrest⟩ := ih hmem
      refine ⟨rest, ?_⟩
      rw [untilHalt, beforeHalt, List.takeWhile_cons, if_pos (decide_eq_true hi),
        List.cons_append, List.cons_append]
      exact congrArg (inst :: ·) hrest

/-- There is no `HLT` before the first one. -/
theorem halt_notMem_beforeHalt (insts : List Instruction) : .halt ∉ beforeHalt insts := by
  intro h
  have hall := List.all_eq_true.1 (List.all_takeWhile (p := (· ≠ .halt)) (l := insts)) _ h
  exact of_decide_eq_true hall rfl

namespace Memory

/-- A loaded image stands at address 0. -/
theorem holds_of_load {m m' : Memory} {image : List UInt8} (h : m.load image = .ok m') :
    m'.Holds 0 image := by
  rw [holds_iff]
  intro k hk
  rw [read_load h, Nat.zero_add, dif_pos hk]

end Memory

namespace Machine

open Ls8.Action

/-! ## Pushes and code -/

/-- Leading from `s` to `s'`, the instruction does not push to an address from the instruction
behind it up to `limit`. -/
def Spares (limit : Nat) (inst : Instruction) (s s' : Session) : Prop :=
  match inst with
  | .push _ =>
    let target := (s.machine.sp - 1).toNat
    ¬ (s'.machine.pc ≤ target ∧ target < limit)
  | _ => True

instance (limit : Nat) (inst : Instruction) (s s' : Session) :
    Decidable (Spares limit inst s s') :=
  match inst with
  | .push _ => inferInstanceAs (Decidable (¬ (_ ∧ _)))
  | .halt | .loadImmediate _ _ | .print _ | .multiply _ _ | .pop _ => isTrue trivial

/-- Executed in order from `s`, none of the instructions pushes into the code that remains behind
it, which ends at `limit`. -/
def SparesCode (limit : Nat) : List Instruction → Session → Prop
  | [], _ => True
  | inst :: insts, s =>
    match execute inst s with
    | .ok _ s' => Spares limit inst s s' ∧ SparesCode limit insts s'
    | .error _ _ => True

theorem sparesCode_cons_iff {limit : Nat} {inst : Instruction} {insts : List Instruction}
    {s s' : Session} (h : execute inst s = .ok () s') :
    SparesCode limit (inst :: insts) s ↔ Spares limit inst s s' ∧ SparesCode limit insts s' := by
  rw [SparesCode, h]

theorem sparesCode_left {limit : Nat} {first second : List Instruction} {s : Session}
    (h : SparesCode limit (first ++ second) s) : SparesCode limit first s := by
  induction first generalizing s with
  | nil => trivial
  | cons inst first ih =>
    rw [List.cons_append, SparesCode] at h
    rw [SparesCode]
    cases hexec : execute inst s with
    | error f s' => trivial
    | ok u s' =>
      rw [hexec] at h
      exact ⟨h.1, ih h.2⟩

instance decidableSparesCode (limit : Nat) :
    ∀ (insts : List Instruction) (s : Session), Decidable (SparesCode limit insts s)
  | [], _ => isTrue trivial
  | inst :: insts, s =>
    match h : execute inst s with
    | .ok _ s' =>
      have := decidableSparesCode limit insts s'
      decidable_of_iff _ (sparesCode_cons_iff h).symm
    | .error _ _ => isTrue (by rw [SparesCode, h]; trivial)

/-- What stays in memory from the next instruction up to `limit` is not changed. -/
theorem holds_effect {limit : Nat} {inst : Instruction} {s s' : Session} {addr : Nat}
    {bytes : List UInt8} (hspares : Spares limit inst s s') (haddr : s'.machine.pc = addr)
    (hlimit : addr + bytes.length = limit) (h : s.machine.memory.Holds addr bytes) :
    (s.machine.effect inst).memory.Holds addr bytes := by
  rw [effect_memory]
  cases inst with
  | push reg =>
    refine h.put _ ?_
    rw [hlimit, ← haddr]
    exact hspares
  | _ => exact h

/-! ## Running beside executing -/

/-- The machine as it is in a run that has counted so far. -/
def inRun (m : Machine) (st : Statistics) : Machine := { m with state := .running, statistics := st }

/-- The run in `t` resembles the execution in `m`: machine and output are the same but for run state
and counters, which are those of the run. -/
structure Shadows (st : Statistics) (m t : Session) : Prop where
  machine : t.machine = m.machine.inRun st
  output  : t.output = m.output

/-- Run state and counters have no part in the effect of an instruction that goes on. -/
theorem effect_inRun {inst : Instruction} (hi : inst ≠ .halt) (m : Machine) (st : Statistics) :
    (m.inRun st).effect inst = (m.effect inst).inRun st := by
  cases inst with
  | halt => exact absurd rfl hi
  | _ => rfl

theorem printed_inRun (m : Machine) (st : Statistics) (inst : Instruction) :
    (m.inRun st).printed inst = m.printed inst := by
  cases inst <;> rfl

variable {st : Statistics} {m m' t : Session} {inst : Instruction}

/-- Retiring an instruction in the run goes with executing it. -/
theorem shadows_retire (h : Shadows st m t) (hi : inst ≠ .halt)
    (hexec : execute inst m = .ok () m') : Shadows (st.record inst) m' (t.retire inst) := by
  obtain ⟨-, -, rfl⟩ := execute_eq_ok_iff.1 hexec
  refine ⟨?_, ?_⟩
  · show (t.machine.effect inst).retire inst = _
    rw [h.machine, effect_inRun hi]
    rfl
  · show t.output.write (t.machine.printed inst) = _
    rw [h.output, h.machine, printed_inRun]

/-- An instruction whose bytes stand at the program counter passes. -/
theorem passes_of_holds (h : Shadows st m t) (hi : inst ≠ .halt) (hnamed : inst.WellNamed)
    (hroom : m.output.room = none) (hcode : m.machine.memory.Holds m.machine.pc inst.encode) :
    Passes t inst where
  decoded := by
    rw [h.machine]
    exact Memory.decode_eq_ok_iff.2 hcode
  goesOn := hi
  named := hnamed
  room := by
    rw [h.output]
    exact Sink.hasRoomFor_of_none hroom _
  running := by
    rw [h.machine]
    rfl

/-- What passes in the run can be executed beside it. -/
theorem exists_execute_of_passes (h : Shadows st m t) (hpass : Passes t inst) :
    ∃ m', execute inst m = .ok () m' ∧ Shadows (st.record inst) m' (t.retire inst) := by
  have hroom := hpass.room
  rw [h.output, h.machine, printed_inRun] at hroom
  obtain ⟨m', hexec⟩ : ∃ m', execute inst m = .ok () m' :=
    ⟨_, execute_eq_ok_iff.2 ⟨hpass.named, hroom, rfl⟩⟩
  exact ⟨m', hexec, shadows_retire h hpass.goesOn hexec⟩

/-- The instructions of a path can be executed one after the other beside it. -/
theorem exists_executeAll_of_path {t' : Session} {trail : List (Nat × Instruction)}
    (hpath : Path t trail t') (h : Shadows st m t) :
    ∃ m', executeAll (instructionsOf trail) m = .ok () m' ∧
      Shadows ((instructionsOf trail).foldl Statistics.record st) m' t' := by
  induction hpath using path_induction generalizing m st with
  | nil t => exact ⟨m, rfl, h⟩
  | cons t inst trail t' hpass hrest ih =>
    obtain ⟨m₁, hfirst, hshadow⟩ := exists_execute_of_passes h hpass
    obtain ⟨m', hlater, hend⟩ := ih hshadow
    exact ⟨m', executeAll_cons_ok_iff.2 ⟨m₁, hfirst, hlater⟩, hend⟩

/-- A run begins beside the execution that begins in the same session. -/
theorem shadows_started (s : Session) : Shadows s.machine.statistics s.started s.started := ⟨rfl, rfl⟩

/-- Execution without `HLT` moves the program counter past the code. -/
theorem executeAll_pc {insts : List Instruction} (hgoes : .halt ∉ insts)
    (h : executeAll insts m = .ok () m') :
    m'.machine.pc = m.machine.pc + (codeOf insts).length := by
  induction insts generalizing m with
  | nil =>
    obtain rfl := executeAll_nil_ok_iff.1 h
    rfl
  | cons inst insts ih =>
    obtain ⟨hne, hgoes'⟩ := not_or.1 fun hor => hgoes (List.mem_cons.2 hor)
    obtain ⟨m₁, hfirst, hrest⟩ := executeAll_cons_ok_iff.1 h
    obtain ⟨-, -, rfl⟩ := execute_eq_ok_iff.1 hfirst
    rw [ih hgoes' hrest, codeOf_cons, List.length_append, inst.length_encode, ← Nat.add_assoc]
    congr 1
    exact effect_pc (Ne.symm hne) m.machine

/-- Code without `HLT` runs as its instructions are executed, and leaves the bytes behind it. -/
theorem path_of_code {insts : List Instruction} {limit : Nat} {tail : List UInt8}
    (h : Shadows st m t) (hroom : m.output.room = none)
    (hgoes : .halt ∉ insts) (hnamed : ∀ i ∈ insts, i.WellNamed)
    (hcode : m.machine.memory.Holds m.machine.pc (codeOf insts ++ tail))
    (hlimit : m.machine.pc + (codeOf insts ++ tail).length = limit)
    (hspares : SparesCode limit insts m)
    (hexec : executeAll insts m = .ok () m') :
    ∃ t', Path t (located m.machine.pc insts) t' ∧
      Shadows (insts.foldl Statistics.record st) m' t' ∧
      m'.machine.memory.Holds m'.machine.pc tail := by
  induction insts generalizing m t st with
  | nil =>
    obtain rfl := executeAll_nil_ok_iff.1 hexec
    exact ⟨t, .nil t, h, hcode⟩
  | cons inst insts ih =>
    obtain ⟨hne, hgoes'⟩ := not_or.1 fun hor => hgoes (List.mem_cons.2 hor)
    have hi : inst ≠ .halt := Ne.symm hne
    obtain ⟨m₁, hfirst, hrest⟩ := executeAll_cons_ok_iff.1 hexec
    obtain ⟨hhere, hlater⟩ := (sparesCode_cons_iff hfirst).1 hspares
    rw [codeOf_cons, List.append_assoc] at hcode hlimit
    -- the bytes of the instruction stand at the program counter, so it passes
    obtain ⟨hinst, hcode'⟩ := Memory.holds_append.1 hcode
    have hpass := passes_of_holds h hi (hnamed inst (List.mem_cons_self ..)) hroom hinst
    have hshadow := shadows_retire h hi hfirst
    -- behind it stand the bytes of the others, also after it was executed
    obtain ⟨-, -, rfl⟩ := execute_eq_ok_iff.1 hfirst
    have hpc : (m.machine.effect inst).pc = m.machine.pc + inst.encode.length := by
      rw [effect_pc hi, inst.length_encode]
    rw [List.length_append, ← Nat.add_assoc, ← hpc] at hlimit
    rw [← hpc] at hcode'
    have hkept := holds_effect hhere rfl hlimit hcode'
    have hroom' : (m.output.write (m.machine.printed inst)).room = none :=
      Sink.room_write_of_none hroom _
    obtain ⟨t', hpath, hend⟩ := ih hshadow hroom' hgoes'
      (fun i hi => hnamed i (List.mem_cons_of_mem _ hi)) hkept hlimit hlater hrest
    rw [located, ← effect_pc hi m.machine]
    refine ⟨t', path_cons_iff.2 ⟨?_, hpass, hpath⟩, hend⟩
    rw [h.machine]
    rfl

/-! ## Whole programs -/

/-- At the bytes of a `HLT` the run stops as the execution of `HLT` does. -/
theorem runOn_halt (h : Shadows st m t) (hcode : m.machine.memory.Holds m.machine.pc [1]) :
    ∃ final, runOn t = .ok () final ∧
      final.machine = { m.machine.halt with statistics := st.record .halt } ∧
      final.output = m.output ∧ final.decodings = t.decodings ++ [(m.machine.pc, .halt)] := by
  have hd : t.machine.memory.decode t.machine.pc = .ok .halt := by
    rw [h.machine]
    exact Memory.decode_eq_ok_iff.2 hcode
  have hrun : t.machine.state = .running := by
    rw [h.machine]
    rfl
  have hlast := Last.halt ((step_halted_iff hrun).2 ⟨hd, rfl⟩)
  have hdecodings := last_decodings hlast hrun
  refine ⟨_, runOn_of_last hlast, ?_, ?_, ?_⟩
  · show (t.machine.effect .halt).retire .halt = _
    rw [h.machine]
    rfl
  · show t.output.write [] = _
    rw [Sink.write_nil, h.output]
  · rw [Session.fetched, hd, h.machine] at hdecodings
    exact hdecodings

/-- The execution of a program that has come to its `HLT` has halted. -/
theorem executeAll_untilHalt_state {program : List Instruction}
    (hexec : executeAll (untilHalt program) m = .ok () m') : m'.machine.state = .halted := by
  obtain ⟨m₁, -, hlast⟩ := executeAll_append_ok_iff.1 hexec
  obtain ⟨-, -, rfl⟩ := execute_eq_ok_iff.1 (executeAll_singleton.1 hlast)
  rfl

/-- Code that ends with its first `HLT` runs as its instructions are executed. -/
theorem runOn_untilHalt {program : List Instruction} (h : Shadows st m t)
    (hroom : m.output.room = none)
    (hnamed : ∀ i ∈ untilHalt program, i.WellNamed)
    (hcode : m.machine.memory.Holds m.machine.pc (codeOf (untilHalt program)))
    (hspares : SparesCode (m.machine.pc + (codeOf (untilHalt program)).length)
      (untilHalt program) m)
    (hexec : executeAll (untilHalt program) m = .ok () m') :
    ∃ final, runOn t = .ok () final ∧
      final.machine =
        { m'.machine with statistics := (untilHalt program).foldl Statistics.record st } ∧
      final.output = m'.output ∧
      final.decodings = t.decodings ++ located m.machine.pc (untilHalt program) := by
  -- the execution splits before the `HLT`, which is executed last
  obtain ⟨m₁, hbefore, hlast⟩ := executeAll_append_ok_iff.1 hexec
  rw [executeAll_singleton, execute_halt] at hlast
  obtain rfl : { m₁ with machine := m₁.machine.halt } = m' := by
    cases hlast
    rfl
  -- so does the code, and the run stays beside the execution up to there
  have hsplit : codeOf (untilHalt program) = codeOf (beforeHalt program) ++ [1] := codeOf_append _ _
  rw [hsplit] at hcode
  have hlimit : m.machine.pc + (codeOf (beforeHalt program) ++ [1]).length =
      m.machine.pc + (codeOf (untilHalt program)).length := by
    rw [hsplit]
  have hnamed' : ∀ i ∈ beforeHalt program, i.WellNamed :=
    fun i hi => hnamed i (List.mem_append_left _ hi)
  have hgoes := halt_notMem_beforeHalt program
  obtain ⟨t', hpath, hshadow, hbytes⟩ :=
    path_of_code h hroom hgoes hnamed' hcode hlimit (sparesCode_left hspares) hbefore
  obtain ⟨final, hfinal, hfm, hfo, hfd⟩ := runOn_halt hshadow hbytes
  refine ⟨final, ?_, ?_, hfo, ?_⟩
  · rw [runOn_of_path hpath, hfinal]
  · rw [hfm, untilHalt, List.foldl_append]
    rfl
  · rw [hfd, path_decodings hpath, executeAll_pc hgoes hbefore, untilHalt, located_append,
      List.append_assoc]
    rfl

/-- An image that fits is copied into memory; registers and program counter stay. -/
theorem load_total {image : List UInt8} (h : image.length ≤ Memory.size) (s : Session) :
    ∃ (mem : Memory) (loaded : Session), load image s = .ok () loaded ∧ mem.Holds 0 image ∧
      loaded.machine = { s.machine with memory := mem } ∧ loaded.output = s.output := by
  obtain ⟨mem, hmem⟩ : ∃ mem, s.machine.memory.load image = .ok mem := ⟨_, Memory.load_of_le h⟩
  exact ⟨mem, _, load_of_ok hmem, Memory.holds_of_load hmem, rfl, rfl⟩

/--
**A run refines the execution of its instructions.** Let a program have a `HLT`, operands that name
registers, and an encoding that fits into memory. From any session with the program counter at 0 and
a stream without limit, its code can be loaded, and its instructions up to the first `HLT` can be
executed one after the other.

If in that execution no `PUSH` writes into the code that remains up to the end of the `HLT`, the run
of the loaded code succeeds as well. It ends with the same machine, halted, and the same output; it
has counted each of these instructions once; and these are what it decoded, each at its place, so
what stands behind the `HLT` is never executed.
-/
theorem run_refines_execution {program : List Instruction} {s : Session}
    (hhalt : .halt ∈ program)
    (hnamed : ∀ i ∈ program, i.WellNamed)
    (hfits : (codeOf program).length ≤ Memory.size)
    (hpc : s.machine.pc = 0)
    (hroom : s.output.room = none) :
    ∃ loaded executed,
      load (codeOf program) s = .ok () loaded ∧
      executeAll (untilHalt program) loaded = .ok () executed ∧
      executed.machine.state = .halted ∧
      (SparesCode (codeOf (untilHalt program)).length (untilHalt program) loaded →
        ∃ final,
          run loaded = .ok () final ∧
          final.machine =
            { executed.machine with
              statistics := (untilHalt program).foldl Statistics.record s.machine.statistics } ∧
          final.output = executed.output ∧
          final.decodings = loaded.decodings ++ located 0 (untilHalt program)) := by
  obtain ⟨rest, hrest⟩ := exists_untilHalt_append hhalt
  have hnamed' : ∀ i ∈ untilHalt program, i.WellNamed := by
    intro i hi
    exact hnamed i (hrest ▸ List.mem_append_left rest hi)
  obtain ⟨mem, loaded, hload, hholds, hmachine, houtput⟩ := load_total hfits s
  have hroom' : loaded.output.room = none := by rw [houtput, hroom]
  have hpc' : loaded.machine.pc = 0 := by rw [hmachine, hpc]
  obtain ⟨executed, hexec⟩ := executeAll_total hnamed' hroom'
  refine ⟨loaded, executed, hload, hexec, executeAll_untilHalt_state hexec, fun hspares => ?_⟩
  -- the code up to the `HLT` stands at the program counter
  have hcode : loaded.machine.memory.Holds loaded.machine.pc (codeOf (untilHalt program)) := by
    rw [hrest, codeOf_append] at hholds
    rw [hpc', hmachine]
    exact (Memory.holds_append.1 hholds).1
  -- the run begins beside the execution: nothing was executed and nothing counted
  have hstart : Shadows s.machine.statistics loaded loaded.started := by
    refine ⟨?_, rfl⟩
    show { loaded.machine with state := .running } = loaded.machine.inRun _
    rw [hmachine]
    rfl
  rw [← Nat.zero_add (codeOf (untilHalt program)).length, ← hpc'] at hspares
  have hrun := runOn_untilHalt hstart hroom' hnamed' hcode hspares hexec
  rw [← run_eq_runOn, hpc'] at hrun
  exact hrun

/-- Pushes over its own first byte, then around address 0, and pushes the stack pointer itself. -/
def wrappingPushes : List Instruction :=
  [.loadImmediate 0 8, .push 0, .push 7, .pop 1, .print 1, .halt, .print 0]

/-- A new machine whose stack pointer stands at 1. -/
def lowStack : Session where
  machine := ofConfig { cpu := { stackPointerInit := 1 } }

theorem run_refines_execution_wrappingPushes :
    ∃ loaded executed final,
      load (codeOf wrappingPushes) lowStack = .ok () loaded ∧
      executeAll (untilHalt wrappingPushes) loaded = .ok () executed ∧
      run loaded = .ok () final ∧
      final.machine =
        { executed.machine with
          statistics := (untilHalt wrappingPushes).foldl Statistics.record .zero } ∧
      final.output = executed.output ∧
      final.decodings = loaded.decodings ++ located 0 (untilHalt wrappingPushes) := by
  have hhalt : .halt ∈ wrappingPushes := by decide
  have hnamed : ∀ i ∈ wrappingPushes, i.WellNamed := by decide +kernel
  have hfits : (codeOf wrappingPushes).length ≤ Memory.size := by decide
  obtain ⟨loaded, executed, hload, hexec, -, hrefines⟩ :=
    run_refines_execution (s := lowStack) hhalt hnamed hfits rfl rfl
  -- both pushes go to addresses that the run has left behind, or to the end of memory
  have hspares : SparesCode (codeOf (untilHalt wrappingPushes)).length (untilHalt wrappingPushes)
      (finalSession (load (codeOf wrappingPushes) lowStack)) := by
    decide +kernel
  rw [hload] at hspares
  obtain ⟨final, hrun, hend⟩ := hrefines hspares
  exact ⟨loaded, executed, final, hload, hexec, hrun, hend⟩

end Machine

end Ls8
