import Ls8.Proofs.EarlierNotices
import Ls8.Proofs.History

/-!
# A reset forgets the history

The stack pointer that a reset sets is fixed when the machine is made, and nothing that can be asked of
the machine touches it. So a reset leads back to where the machine began, but for memory and the two
switches, whatever was done before and however much of it failed.

What a run comes to depends on the machine and on the stream, and not on what was noticed before. Once a
whole image is loaded, memory is the same as well; so a run from there and the run of a new machine are
the same in everything.

Main results:

* `performAll_spInit` — no history changes the stack pointer of a reset.
* `load_full` — a whole image leaves nothing of the memory before it.
* `reset_forgets_history` — what a reset leaves after any history, and the run behind it.
-/

namespace Ls8

/-! ## The stack pointer of a reset -/

namespace Operation

/-- No operation changes what a reset sets the stack pointer to. -/
theorem keeps_spInit (op : Operation) (files : Files) :
    Keeps Machine.spInit (op.perform files) := by
  have hsettled : Settled Machine.spInit :=
    { registers := fun _ _ => rfl, memory := fun _ _ => rfl, pc := fun _ _ => rfl,
      state := fun _ _ => rfl, statistics := fun _ _ => rfl }
  -- that frame is for all operations but the two that set a switch
  cases op with
  | setTracing | setHaltResetsPc =>
    refine Keeps.quietly (Keeps.change ?_)
    exact fun _ => rfl
  | _ => exact keeps_settled hsettled rfl files

end Operation

theorem performAll_spInit (s : Session) (calls : List Call) :
    (s.performAll calls).machine.spInit = s.machine.spInit := by
  induction calls generalizing s with
  | nil => rfl
  | cons c calls ih =>
    have hcall : (c.perform s).machine.spInit = s.machine.spInit := by
      rw [Call.perform, Operation.next_eq_after]
      exact Operation.keeps_spInit c.operation c.files { s with output := c.stream }
    exact (ih (c.perform s)).trans hcall

/-! ## A whole image on a reset machine -/

/-- A whole image leaves nothing of the memory before it. -/
theorem Memory.load_full {image : List UInt8} (h : image.length = size) (m m' : Memory) :
    m.load image = m'.load image := by
  have hcell : ∀ (old : Memory) (i : Fin size),
      image[i.val]?.getD old.cells[i] = image.get (i.cast h.symm) := by
    intro old i
    have hi : i.val < image.length := Nat.lt_of_lt_of_eq i.isLt h.symm
    rw [List.getElem?_eq_getElem hi, Option.getD_some]
    rfl
  -- so neither memory decides what any cell holds
  rw [load_of_le (Nat.le_of_eq h), load_of_le (Nat.le_of_eq h)]
  simp only [hcell]

namespace Machine

/-- A new machine with the switches of another one. -/
def renewed (c : Config) (m : Machine) : Machine :=
  { ofConfig c with tracing := m.tracing, haltResetsPc := m.haltResetsPc }

/-- But for memory, a machine that was reset is a new one with its switches. -/
theorem reset_with_memory {m : Machine} {c : Config} (h : m.spInit = c.cpu.stackPointerInit)
    (memory : Memory) :
    { m.reset with memory := memory } = { renewed c m with memory := memory } := by
  simp only [reset, renewed, ofConfig, h]

/-- Loading a whole image into a machine that was reset comes to the same as loading it into a new one,
but for what was noticed before. -/
theorem load_reset {m : Machine} {c : Config} (h : m.spInit = c.cpu.stackPointerInit)
    {image : List UInt8} (hfull : image.length = Memory.size) (stream : Sink) (past : List Notice) :
    ∃ t, load image { machine := renewed c m, output := stream } = .ok () t ∧
      load image { machine := m.reset, output := stream, notices := past } =
        .ok () (t.behind past) := by
  obtain ⟨mem, hmem⟩ : ∃ mem, m.memory.load image = .ok mem :=
    ⟨_, Memory.load_of_le (Nat.le_of_eq hfull)⟩
  -- the new machine has another memory, but not behind the image
  have hnew : (renewed c m).memory.load image = .ok mem :=
    (Memory.load_full hfull _ m.memory).trans hmem
  refine ⟨_, load_of_ok (s := { machine := renewed c m, output := stream }) hnew, ?_⟩
  have hcopied : load image { machine := m.reset, output := stream, notices := past } =
      .ok () (Session.note
        { machine := { m.reset with memory := mem }, output := stream, notices := past }
        (.event (.programLoaded image.length))) :=
    load_of_ok hmem
  rw [reset_with_memory h mem] at hcopied
  exact hcopied

/--
**A reset forgets the history.** Take a new machine with any configuration, any history of calls, with
whatever streams and files and failures among them, and a reset behind it. Registers, program counter,
run state and counters are those of the new machine, with the stack pointer where the configuration puts
it; memory and the two switches are those that the history left.

Load an image of 256 bytes then, which succeeds, and run it on any stream: the fault or its absence, the
machine, the stream and everything noticed are those of a new machine with that configuration and those
switches into which the same image was loaded.
-/
theorem reset_forgets_history (c : Config) (calls : List Call) :
    let used := ({ machine := ofConfig c } : Session).performAll calls
    let cleared := ({ operation := .reset } : Call).perform used
    (cleared.machine.registers = (ofConfig c).registers ∧
      cleared.machine.sp = c.cpu.stackPointerInit ∧
      cleared.machine.pc = (ofConfig c).pc ∧
      cleared.machine.state = (ofConfig c).state ∧
      cleared.machine.statistics = (ofConfig c).statistics) ∧
    (cleared.machine.memory = used.machine.memory ∧
      cleared.machine.tracing = used.machine.tracing ∧
      cleared.machine.haltResetsPc = used.machine.haltResetsPc) ∧
    ∀ (image : List UInt8) (stream : Sink), image.length = Memory.size →
      let fresh : Session := { machine := renewed c used.machine, output := stream }
      ∃ s t, load image { cleared with output := stream } = .ok () s ∧
        load image fresh = .ok () t ∧
        fault? (run s) = fault? (run t) ∧
        (finalSession (run s)).machine = (finalSession (run t)).machine ∧
        (finalSession (run s)).output = (finalSession (run t)).output ∧
        (finalSession (run s)).notices = cleared.notices ++ (finalSession (run t)).notices := by
  intro used cleared
  have hspInit : used.machine.spInit = c.cpu.stackPointerInit :=
    performAll_spInit { machine := ofConfig c } calls
  have hregisters : cleared.machine.registers = (ofConfig c).registers := by
    show Registers.zero.setSp used.machine.spInit = _
    rw [hspInit]
    rfl
  have hsp : cleared.machine.sp = c.cpu.stackPointerInit := by
    rw [Machine.sp, hregisters]
    exact Registers.sp_setSp _ _
  refine ⟨⟨hregisters, hsp, rfl, rfl, rfl⟩, ⟨rfl, rfl, rfl⟩, ?_⟩
  intro image stream hfull fresh
  obtain ⟨t, hfresh, hcleared⟩ := load_reset hspInit hfull stream cleared.notices
  refine ⟨t.behind cleared.notices, t, hcleared, hfresh, ?_⟩
  -- so the one run is the other with those notices in front
  rw [unread_run]
  cases run t with
  | ok u t' => exact ⟨rfl, rfl, rfl, rfl⟩
  | error f t' => exact ⟨rfl, rfl, rfl, rfl⟩

/-- The stack pointer is set to the end of a program that pushes R0 and stops, so a zero is pushed over
the `HLT` and the run fails there. Then a cell is written, and a step fails outside memory. -/
def wandered : List Call :=
  [{ operation := .setSp 3 }, { operation := .setTracing true },
   { operation := .load [69, 0, 1] }, { operation := .run },
   { operation := .poke 200 9 }, { operation := .setPc 999 }, { operation := .step }]

/-- Loads R0 with 7, prints it, pushes it and stops. -/
def printsSeven : List UInt8 := [130, 0, 7, 71, 0, 69, 0, 1] ++ List.replicate 248 0

/-- Neither the stack pointer nor the count of instructions of the history is left, and the 7 is printed
as on a new machine. -/
theorem reset_forgets_history_wandered :
    let used := ({ machine := ofConfig { cpu := { stackPointerInit := 32 } } } : Session).performAll
      wandered
    let cleared := ({ operation := .reset } : Call).perform used
    used.machine.sp = 2 ∧ used.machine.statistics.retired = 1 ∧
    cleared.machine.sp = 32 ∧ cleared.machine.statistics = .zero ∧
    printsSeven.length = Memory.size ∧
    ∃ s, load printsSeven { cleared with output := {} } = .ok () s ∧ fault? (run s) = none ∧
      (finalSession (run s)).output.written = ['7', '\n'] ∧
      (finalSession (run s)).machine.sp = 31 := by
  intro used cleared
  obtain ⟨⟨-, hsp, -, -, hstatistics⟩, -, hruns⟩ :=
    reset_forgets_history { cpu := { stackPointerInit := 32 } } wandered
  have hlength : printsSeven.length = Memory.size := by decide +kernel
  obtain ⟨s, t, hs, ht, hfault, hmachine, houtput, -⟩ := hruns printsSeven {} hlength
  -- what the new machine does is evaluated
  have hnew :
      let fresh : Session :=
        { machine := renewed { cpu := { stackPointerInit := 32 } }
            (({ machine := ofConfig { cpu := { stackPointerInit := 32 } } } : Session).performAll
              wandered).machine }
      let new := fresh.after (load printsSeven)
      fault? (run new) = none ∧ (finalSession (run new)).output.written = ['7', '\n'] ∧
        (finalSession (run new)).machine.sp = 31 := by
    decide +kernel
  simp only [Session.after_of_ok ht] at hnew
  obtain ⟨hnone, hwritten, hpushed⟩ := hnew
  refine ⟨by decide +kernel, by decide +kernel, hsp, hstatistics, hlength, s, hs, ?_, ?_, ?_⟩
  · rw [hfault, hnone]
  · rw [houtput, hwritten]
  · rw [hmachine, hpushed]

end Machine

end Ls8
