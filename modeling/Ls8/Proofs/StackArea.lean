import Mathlib.Data.List.Infix
import Ls8.Proofs.Counters
import Ls8.Proofs.Ending
import Ls8.Proofs.MachineCode

/-!
# The stack area

The stack of a new machine starts below `0xF4`. Nothing in the instruction set keeps it from growing
over the program or around address 0, and yet a program that keeps its stack cannot do so: a run has
no way back in memory, each `PUSH` takes two of the 256 bytes, so a run pushes no more than 128 times
and the stack stays above `0x74`.

So the cells from `0xF4` on are free for other uses, and a program that fits below `0x74` cannot be
overwritten, whatever it does to its code behind that.

Main results:

* `disciplined_of_path` — what a run retires is a disciplined history.
* `withinArea_of_path` — at every point of the run the stack is inside its area.
* `run_stays_in_stack_area` — and so it is when the run has ended.
-/

namespace Ls8

/-! ## Counted pushes and pops -/

theorem Instruction.isPush_eq_false_of_isPop {inst : Instruction} (h : inst.isPop = true) :
    inst.isPush = false := by
  cases inst with
  | pop reg => rfl
  | _ => cases h

theorem pushes_le_length (insts : List Instruction) : pushes insts ≤ insts.length :=
  List.countP_le_length

theorem depth_le_length (insts : List Instruction) : depth insts ≤ insts.length :=
  Nat.le_trans (Nat.sub_le _ _) (pushes_le_length insts)

namespace Machine

/-! ## The area -/

/-- The addresses from `0x74` up to `0xF3`, where the stack of a new machine has its values. -/
def InStackArea (addr : Nat) : Prop := 0x74 ≤ addr ∧ addr ≤ 0xF3

/-- The stack pointer is as far below `0xF4` as the counters say that the stack is deep, which is no
more than 128, and outside the stack area memory is as it was in the machine `before`. -/
structure WithinArea (before m : Machine) : Prop where
  sp    : m.sp.toNat + m.statistics.depth = 0xF4
  depth : m.statistics.depth ≤ 128
  frame : ∀ addr, ¬ InStackArea addr → m.memory.read addr = before.memory.read addr

/-- A run that uses `R7` as a stack pointer: at every point, no retired instruction put its result
there, and no more was popped than was pushed. -/
structure KeepsStack (s : Session) : Prop where
  spared  : ∀ trail t, Path s.started trail t →
              ∀ inst ∈ instructionsOf trail, inst.destination? ≠ some Registers.spIndex
  matched : ∀ trail t, Path s.started trail t →
              pops (instructionsOf trail) ≤ pushes (instructionsOf trail)

/-- A stack that is no deeper than it can grow in a run stays above address 0. -/
theorem toNat_stackTop_sub {i : Nat} (hi : i ≤ 128) :
    ((0xF4 : UInt8) - UInt8.ofNat i).toNat = 0xF4 - i := by
  have htop : (0xF4 : UInt8).toNat = 0xF4 := rfl
  rw [UInt8.toNat_sub, UInt8.toNat_ofNat', htop]
  omega

/-- The slots of a history that is as short as those of a run are in the area. -/
theorem inStackArea_of_inSlots {insts : List Instruction} {addr : Nat} (hlength : insts.length ≤ 128)
    (h : InSlots 0xF4 insts addr) : InStackArea addr := by
  obtain ⟨past, hpast, i, hi, hdepth, rfl⟩ := h
  have hshorter := hpast.length_le
  have hdeepest := depth_le_length past
  rw [toNat_stackTop_sub (by omega)]
  constructor <;> omega

/-! ## Along the run -/

section

variable {s t : Session} {trail : List (Nat × Instruction)}

/-- From address 0, a path retires at most 128 instructions. -/
theorem length_le_of_path (h : Path s.started trail t) (hpc : s.machine.pc = 0) :
    (instructionsOf trail).length ≤ 128 := by
  have hfrom := path_pc_le h
  have hto := path_pc_le_max h
  have hstart : s.started.machine.pc = 0 := hpc
  have hsize : Memory.size = 256 := rfl
  rw [List.length_map]
  omega

/-- What a run retires is a disciplined history; that the stack is not too deep need not be asked. -/
theorem disciplined_of_path (hkeeps : KeepsStack s) (hpc : s.machine.pc = 0)
    (h : Path s.started trail t) : Disciplined (instructionsOf trail) where
  spared := hkeeps.spared trail t h
  matched := by
    intro k hk hpop
    -- the path up to the pop and including it
    rw [← List.take_append_drop (k + 1) trail] at h
    obtain ⟨u, hupto, -⟩ := path_append_iff.1 h
    have hle := hkeeps.matched _ u hupto
    rw [instructionsOf, List.map_take, List.take_succ_eq_append_getElem hk, pops_append,
      pushes_append, if_pos hpop] at hle
    -- a pop is no push, so without it there was a push more
    rw [Instruction.isPush_eq_false_of_isPop hpop, if_neg Bool.false_ne_true] at hle
    omega
  bounded := by
    intro k _
    have hlength := length_le_of_path h hpc
    have hpushes := pushes_le_length ((instructionsOf trail).take k)
    rw [List.length_take] at hpushes
    omega

variable (hkeeps : KeepsStack s) (hpc : s.machine.pc = 0) (hsp : s.machine.sp = 0xF4)
  (hzero : s.machine.statistics = .zero)

include hkeeps hpc hsp hzero

/-- At every point of the run the stack is inside its area. -/
theorem withinArea_of_path (h : Path s.started trail t) : WithinArea s.machine t.machine := by
  have hlength := length_le_of_path h hpc
  have hdepth := depth_le_length (instructionsOf trail)
  -- beside the run its instructions are executed, and they are a disciplined history
  obtain ⟨m, hexec, hshadow⟩ := exists_executeAll_of_path h (shadows_started s)
  have hd := disciplined_of_path hkeeps hpc h
  obtain ⟨vs, hstacked⟩ := stacked_of_executeAll hd (List.prefix_refl _) hexec
  have hstart : s.started.machine.sp = 0xF4 := hsp
  have hcounted : t.machine.statistics.depth = depth (instructionsOf trail) := by
    rw [hshadow.machine, hzero]
    exact Statistics.foldl_record_depth _
  refine ⟨?_, ?_, ?_⟩
  · have hbelow : t.machine.sp = 0xF4 - UInt8.ofNat (depth (instructionsOf trail)) := by
      rw [← hstart, ← hstacked.sp_eq hd (List.prefix_refl _), hshadow.machine]
      rfl
    rw [hcounted, hbelow, toNat_stackTop_sub (by omega)]
    omega
  · rw [hcounted]
    omega
  · intro addr haddr
    rw [hshadow.machine]
    refine hstacked.frame addr fun hslot => haddr ?_
    rw [hstart] at hslot
    exact inStackArea_of_inSlots hlength hslot

/-- A `PUSH` that passes writes inside the area. -/
theorem push_inStackArea (h : Path s.started trail t) {reg : UInt8} (hpass : Passes t (.push reg)) :
    InStackArea (t.machine.sp - 1).toNat := by
  have hbefore := withinArea_of_path hkeeps hpc hsp hzero h
  have hbehind := withinArea_of_path hkeeps hpc hsp hzero (path_concat h hpass)
  have htop := hbefore.sp
  have hbottom := hbefore.depth
  -- before the push the stack pointer is not at 0, so it goes down by one
  have hone : (t.machine.sp - 1).toNat + 1 = t.machine.sp.toNat := by
    rw [UInt8.toNat_sub, UInt8.toNat_one]
    omega
  -- behind it, it stands at the cell that was written
  have hpushed : (t.retire (.push reg)).machine.sp = t.machine.sp - 1 := Registers.sp_setSp _ _
  have htop' := hbehind.sp
  have hbottom' := hbehind.depth
  rw [hpushed] at htop'
  constructor <;> omega

end

/-- The last step of a run leaves stack and memory alone. -/
theorem withinArea_of_ending {before : Machine} {t : Session} {r : Outcome} (h : Ending t r)
    (hwithin : WithinArea before t.machine) : WithinArea before (finalSession r).machine := by
  cases h with
  | undecoded hd =>
    show WithinArea before t.traced.machine
    rw [t.traced_machine]
    exact hwithin
  | @stray inst reg hd hreg =>
    show WithinArea before (t.announce inst).machine
    rw [t.announce_machine]
    exact hwithin
  | @refused inst hd hnamed hfull =>
    show WithinArea before ((t.announce inst).refuse inst).machine
    rw [t.announce_refuse_machine]
    exact hwithin
  | halted hd => exact ⟨hwithin.sp, hwithin.depth, hwithin.frame⟩

/-! ## Whole runs -/

/--
**A program that keeps its stack stays off everything else.** An image that fits can be loaded into
a new machine with the default configuration. If in the run of it no retired instruction but `PUSH`
and `POP` moves `R7`, and no more is popped than was pushed, then at every point of the run, and when
it has ended in whatever way, the stack pointer is as far below `0xF4` as the counters say, and no
cell from `0xF4` on or below `0x74` was changed since loading. Every `PUSH` writes in between.
-/
theorem run_stays_in_stack_area {image : List UInt8} {s : Session}
    (hfits : image.length ≤ Memory.size) (hnew : s.machine = ofConfig {}) :
    ∃ loaded, load image s = .ok () loaded ∧
      (KeepsStack loaded →
        (∀ trail t, Path loaded.started trail t →
          WithinArea loaded.machine t.machine ∧
          ∀ reg, Passes t (.push reg) →
            (t.retire (.push reg)).machine.memory =
              t.machine.memory.put (t.machine.sp - 1) (t.machine.registers.value reg) ∧
            InStackArea (t.machine.sp - 1).toNat) ∧
        WithinArea loaded.machine (finalSession (run loaded)).machine) := by
  obtain ⟨mem, loaded, hload, -, hmachine, -⟩ := load_total hfits s
  rw [hnew] at hmachine
  have hpc : loaded.machine.pc = 0 := by
    rw [hmachine]
    rfl
  have hsp : loaded.machine.sp = 0xF4 := by
    rw [hmachine]
    rfl
  have hzero : loaded.machine.statistics = .zero := by
    rw [hmachine]
    rfl
  refine ⟨loaded, hload, fun hkeeps => ⟨fun trail t hpath => ⟨?_, fun reg hpass => ⟨rfl, ?_⟩⟩, ?_⟩⟩
  · exact withinArea_of_path hkeeps hpc hsp hzero hpath
  · exact push_inStackArea hkeeps hpc hsp hzero hpath hpass
  · obtain ⟨trail, t, hpath, hending⟩ := exists_path_ending loaded
    exact withinArea_of_ending hending (withinArea_of_path hkeeps hpc hsp hzero hpath)

/-- It is enough to look at what a run decodes, of which it retires all but the last at least. -/
theorem keepsStack_of_decodings {s : Session} {decoded : List (Nat × Instruction)}
    (hdecoded : (finalSession (run s)).decodings = s.decodings ++ decoded)
    (hspared : ∀ inst ∈ instructionsOf decoded, inst.destination? ≠ some Registers.spIndex)
    (hmatched : ∀ past ∈ (instructionsOf decoded).inits, pops past ≤ pushes past) :
    KeepsStack s := by
  -- a trail is the beginning of what is decoded
  have hbegin : ∀ trail t, Path s.started trail t →
      instructionsOf trail <+: instructionsOf decoded := by
    intro trail t hpath
    obtain ⟨rest, hrest⟩ := path_decodings_run hpath
    obtain rfl : decoded = trail ++ rest := List.append_cancel_left (hdecoded.symm.trans hrest)
    rw [instructionsOf, instructionsOf, List.map_append]
    exact List.prefix_append _ _
  refine ⟨?_, ?_⟩
  · intro trail t hpath inst hinst
    exact hspared inst ((hbegin trail t hpath).subset hinst)
  · intro trail t hpath
    exact hmatched _ ((List.mem_inits _ _).2 (hbegin trail t hpath))

/-- Pushes 7 and the stack pointer behind it, and pops both. -/
def pushesItsPointer : List Instruction :=
  [.loadImmediate 0 7, .push 0, .push 7, .pop 1, .pop 2, .multiply 1 2, .print 1, .halt]

/-- A new machine with the default configuration. -/
def newMachine : Session where
  machine := ofConfig {}

theorem run_stays_in_stack_area_pushesItsPointer :
    ∃ loaded, load (codeOf pushesItsPointer) newMachine = .ok () loaded ∧
      (finalSession (run loaded)).decodings = loaded.decodings ++ located 0 pushesItsPointer ∧
      KeepsStack loaded ∧ WithinArea loaded.machine (finalSession (run loaded)).machine := by
  have hfits : (codeOf pushesItsPointer).length ≤ Memory.size := by decide
  obtain ⟨loaded, hload, hstays⟩ := run_stays_in_stack_area (s := newMachine) hfits rfl
  have hdecoded : (finalSession (run (finalSession
      (load (codeOf pushesItsPointer) newMachine)))).decodings =
        (finalSession (load (codeOf pushesItsPointer) newMachine)).decodings ++
          located 0 pushesItsPointer := by
    decide +kernel
  rw [hload] at hdecoded
  have hkeeps : KeepsStack loaded := by
    refine keepsStack_of_decodings hdecoded ?_ ?_
    · decide +kernel
    · decide +kernel
  exact ⟨loaded, hload, hdecoded, hkeeps, (hstays hkeeps).2⟩

end Machine

end Ls8
