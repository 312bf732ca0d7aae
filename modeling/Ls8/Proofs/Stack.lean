import Mathlib.Data.List.Forall2
import Mathlib.Data.List.Induction
import Ls8.Proofs.Sequence

/-!
# The stack

The stack is nothing but `R7` and the cells that it passes, yet a history that leaves `R7` to `PUSH`
and `POP` sees a stack of capacity 256. Which `PUSH` a `POP` answers is a matter of the history
alone: `openPushes` keeps those that are unanswered, the latest first.

The invariant `Stacked` says that the values which the open pushes read stand in memory from the
stack pointer on, around address 0 if need be. With no more than 256 of them their cells are distinct,
so a push meets none that is in use.

Main results:

* `stacked_append` — one instruction keeps the invariant.
* `stacked_of_executeAll` — so does a disciplined history.
* `stack_lifo` — what this says of the stack pointer, of the popped values and of the other cells.
-/

namespace Ls8

namespace Instruction

/-- The register that takes the result of an instruction. -/
def destination? : Instruction → Option UInt8
  | loadImmediate reg _ => some reg
  | multiply regA _ => some regA
  | pop reg => some reg
  | _ => none

def isPush : Instruction → Bool
  | push _ => true
  | _ => false

def isPop : Instruction → Bool
  | pop _ => true
  | _ => false

end Instruction

/-! ## Histories -/

/-- How many instructions of a history push. -/
def pushes (insts : List Instruction) : Nat := insts.countP Instruction.isPush

/-- How many instructions of a history pop. -/
def pops (insts : List Instruction) : Nat := insts.countP Instruction.isPop

/-- By how much the pushes of a history exceed its pops. -/
def depth (insts : List Instruction) : Nat := pushes insts - pops insts

/-- A history that uses `R7` as a stack pointer: no instruction puts its result there, nothing is
popped from an empty stack, and no more than 256 values are on it at any time. -/
structure Disciplined (insts : List Instruction) : Prop where
  spared  : ∀ inst ∈ insts, inst.destination? ≠ some Registers.spIndex
  matched : ∀ (k : Nat) (h : k < insts.length), insts[k].isPop = true →
              pushes (insts.take k) ≠ pops (insts.take k)
  bounded : ∀ k ≤ insts.length, pushes (insts.take k) ≤ pops (insts.take k) + 256

namespace Disciplined

variable {insts past : List Instruction}

theorem spIndex_spared (hd : Disciplined insts) {inst : Instruction}
    (h : past ++ [inst] <+: insts) : inst.destination? ≠ some Registers.spIndex :=
  hd.spared inst (h.subset (List.mem_append_right _ (List.mem_singleton.2 rfl)))

theorem pushes_ne_pops (hd : Disciplined insts) {reg : UInt8} (h : past ++ [.pop reg] <+: insts) :
    pushes past ≠ pops past := by
  obtain ⟨future, rfl⟩ := h
  have hmatched := hd.matched past.length
  simp only [List.append_assoc, List.take_left] at hmatched
  exact hmatched (by simp) (by simp; rfl)

theorem pushes_le (hd : Disciplined insts) (h : past <+: insts) :
    pushes past ≤ pops past + 256 := by
  have hbound := hd.bounded past.length h.length_le
  rwa [← List.prefix_iff_eq_take.1 h] at hbound

end Disciplined

/-- What one instruction does to the open pushes; its place in the history comes with it. -/
def track (opens : List (Nat × UInt8)) : Instruction × Nat → List (Nat × UInt8)
  | (.push reg, k) => (k, reg) :: opens
  | (.pop _, _) => opens.tail
  | _ => opens

/-- The pushes of a history that no pop has answered yet, the latest first: the place of each, which
is the number of instructions before it, and its source register. -/
def openPushes (insts : List Instruction) : List (Nat × UInt8) := insts.zipIdx.foldl track []

theorem openPushes_append (past : List Instruction) (inst : Instruction) :
    openPushes (past ++ [inst]) = track (openPushes past) (inst, past.length) := by
  rw [openPushes, List.zipIdx_append, List.foldl_append, Nat.zero_add]
  rfl

theorem pushes_append (past : List Instruction) (inst : Instruction) :
    pushes (past ++ [inst]) = pushes past + if inst.isPush then 1 else 0 := by
  rw [pushes, List.countP_append, List.countP_singleton]
  rfl

theorem pops_append (past : List Instruction) (inst : Instruction) :
    pops (past ++ [inst]) = pops past + if inst.isPop then 1 else 0 := by
  rw [pops, List.countP_append, List.countP_singleton]
  rfl

/-- An open push is a push, at its place. -/
theorem getElem?_of_mem_openPushes {insts : List Instruction} {k : Nat} {reg : UInt8}
    (h : (k, reg) ∈ openPushes insts) : insts[k]? = some (.push reg) := by
  induction insts using List.reverseRecOn with
  | nil => cases h
  | append_singleton past inst ih =>
    rw [openPushes_append] at h
    -- what was open before keeps its place
    have hold : (k, reg) ∈ openPushes past → (past ++ [inst])[k]? = some (.push reg) := by
      intro hmem
      have hk := ih hmem
      rw [List.getElem?_append_left (List.getElem?_eq_some_iff.1 hk).1, hk]
    cases inst with
    | push reg' =>
      rcases List.mem_cons.1 h with heq | hmem
      · obtain ⟨rfl, rfl⟩ := Prod.mk.inj heq
        rw [List.getElem?_append_right (Nat.le_refl _), Nat.sub_self]
        rfl
      · exact hold hmem
    | pop reg' => exact hold (List.mem_of_mem_tail h)
    | _ => exact hold h

/-- As many pushes are open as there are pushes without a pop. -/
theorem length_openPushes {insts past : List Instruction} (hd : Disciplined insts)
    (hpast : past <+: insts) : (openPushes past).length + pops past = pushes past := by
  induction past using List.reverseRecOn with
  | nil => rfl
  | append_singleton past inst ih =>
    have hbefore := ih ((List.prefix_append past [inst]).trans hpast)
    rw [openPushes_append, pops_append, pushes_append]
    cases inst with
    | push reg =>
      show (openPushes past).length + 1 + (pops past + 0) = pushes past + 1
      omega
    | pop reg =>
      -- some push is still open, so the tail is shorter by one
      have hmatched := hd.pushes_ne_pops hpast
      show (openPushes past).tail.length + (pops past + 1) = pushes past + 0
      rw [List.length_tail]
      omega
    | _ => exact hbefore

theorem length_openPushes_eq_depth {insts past : List Instruction} (hd : Disciplined insts)
    (hpast : past <+: insts) : (openPushes past).length = depth past :=
  Nat.eq_sub_of_add_eq (length_openPushes hd hpast)

/-- A push follows on fewer than 256 open pushes. -/
theorem length_openPushes_lt {insts past : List Instruction} {reg : UInt8} (hd : Disciplined insts)
    (hpast : past ++ [.push reg] <+: insts) : (openPushes past).length < Memory.size := by
  have hlen := length_openPushes hd hpast
  have hbound := hd.pushes_le hpast
  rw [openPushes_append] at hlen
  change (openPushes past).length + 1 + _ = _ at hlen
  rw [Memory.size]
  omega

/-! ## Around the end of memory -/

namespace Memory

/-- Bytes in the cells from an address on, going on at address 0 after the last cell. -/
def HoldsAround (m : Memory) (a : UInt8) : List UInt8 → Prop
  | [] => True
  | b :: bs => m.cell a = b ∧ m.HoldsAround (a + 1) bs

/-- One step closer to an address further up. -/
theorem toNat_sub_succ {a x : UInt8} (h : 0 < (x - a).toNat) :
    (x - (a + 1)).toNat + 1 = (x - a).toNat := by
  have ha := UInt8.toNat_lt a
  have hx := UInt8.toNat_lt x
  rw [UInt8.toNat_sub] at h
  rw [UInt8.toNat_sub, UInt8.toNat_sub, UInt8.toNat_add, UInt8.toNat_one]
  omega

/-- The cell below an address is the last one that is reached from it. -/
theorem toNat_pred_sub (a : UInt8) : (a - 1 - a).toNat = 255 := by
  have ha := UInt8.toNat_lt a
  rw [UInt8.toNat_sub, UInt8.toNat_sub, UInt8.toNat_one]
  omega

/-- A change further up than the bytes reach leaves them all. -/
theorem HoldsAround.put {m : Memory} {a x : UInt8} {bs : List UInt8} (h : m.HoldsAround a bs)
    (v : UInt8) (hx : bs.length ≤ (x - a).toNat) : (m.put x v).HoldsAround a bs := by
  -- the distance to `x` and the number of bytes go down together
  induction bs generalizing a with
  | nil => exact trivial
  | cons b bs ih =>
    obtain ⟨hhead, htail⟩ := h
    rw [List.length_cons] at hx
    have hnext := toNat_sub_succ (Nat.lt_of_lt_of_le (Nat.zero_lt_succ _) hx)
    have hne : a ≠ x := by
      rintro rfl
      rw [UInt8.sub_self] at hx
      exact Nat.not_succ_le_zero _ hx
    refine ⟨?_, ih htail (by omega)⟩
    rw [cell_put, if_neg hne, hhead]

/-- Below fewer than 256 bytes there is room for one more. -/
theorem HoldsAround.put_below {m : Memory} {a : UInt8} {bs : List UInt8} (h : m.HoldsAround a bs)
    (v : UInt8) (hbs : bs.length < size) : (m.put (a - 1) v).HoldsAround (a - 1) (v :: bs) := by
  refine ⟨?_, ?_⟩
  · rw [cell_put, if_pos rfl]
  · rw [UInt8.sub_add_cancel]
    apply h.put
    -- the new cell is 255 further up, around the end of memory
    rw [toNat_pred_sub]
    exact Nat.le_of_lt_succ hbs

end Memory

namespace Machine

/-! ## The stack pointer and memory -/

/-- Where the result does not go to `R7`, only `PUSH` and `POP` move the stack pointer. -/
theorem effect_sp {inst : Instruction} (hnamed : inst.WellNamed)
    (hdest : inst.destination? ≠ some Registers.spIndex) (m : Machine) :
    (m.effect inst).sp =
      match inst with
      | .push _ => m.sp - 1
      | .pop _ => m.sp + 1
      | _ => m.sp := by
  cases inst with
  | halt => rfl
  | print reg => rfl
  | loadImmediate reg v =>
    have hreg : reg.toNat < Registers.count := hnamed.single rfl
    exact Registers.sp_put hreg fun h => hdest (congrArg some h)
  | multiply regA regB =>
    obtain ⟨hreg, -⟩ := hnamed.both rfl
    exact Registers.sp_put hreg fun h => hdest (congrArg some h)
  | push reg => exact Registers.sp_setSp _ _
  | pop reg =>
    have hreg : reg.toNat < Registers.count := hnamed.single rfl
    show (Registers.setSp _ _).sp = _
    rw [Registers.sp_setSp, Registers.sp_put hreg fun h => hdest (congrArg some h)]
    rfl

/-- A register other than `R7` keeps the popped byte while the stack pointer moves. -/
theorem effect_pop_value {reg : UInt8} (hreg : reg.toNat < Registers.count)
    (hne : reg ≠ Registers.spIndex) (m : Machine) :
    (m.effect (.pop reg)).registers.value reg = m.memory.cell m.sp := by
  show (Registers.setSp _ _).value reg = _
  rw [Registers.setSp_eq_put, Registers.value_put (by decide), if_neg hne, Registers.value_put hreg,
    if_pos rfl]

/-! ## The invariant -/

/-- After these instructions, executed in order, a register reads as the value. -/
def ReadsAfter (s : Session) (past : List Instruction) (reg v : UInt8) : Prop :=
  ∃ t, executeAll past s = .ok () t ∧ t.machine.registers.read reg = .ok v

/-- The address is one of those below `sp` that a history takes up: no further down than the depth
that it has at some point, hence than the greatest depth that it reaches. -/
def InSlots (sp : UInt8) (insts : List Instruction) (addr : Nat) : Prop :=
  ∃ past, past <+: insts ∧ ∃ i, 1 ≤ i ∧ i ≤ depth past ∧ addr = (sp - UInt8.ofNat i).toNat

/-- The values that the open pushes of the past read stand on the stack, and no other cell than those
the stack has reached was changed. -/
structure Stacked (insts : List Instruction) (s : Session) (past : List Instruction) (m : Machine)
    (vs : List UInt8) : Prop where
  sp    : m.sp = s.machine.sp - UInt8.ofNat vs.length
  cells : m.memory.HoldsAround m.sp vs
  reads : List.Forall₂ (fun k v => ReadsAfter s (insts.take k.1) k.2 v) (openPushes past) vs
  frame : ∀ addr, ¬ InSlots s.machine.sp past addr →
            m.memory.read addr = s.machine.memory.read addr

theorem InSlots.mono {sp : UInt8} {past insts : List Instruction} {addr : Nat}
    (h : InSlots sp past addr) (hpre : past <+: insts) : InSlots sp insts addr := by
  obtain ⟨early, hearly, hi⟩ := h
  exact ⟨early, hearly.trans hpre, hi⟩

variable {insts past : List Instruction} {s t : Session} {m m' : Machine} {vs : List UInt8}
  {inst : Instruction} {reg : UInt8}

theorem stacked_nil : Stacked insts s [] s.machine [] where
  sp := (UInt8.sub_zero _).symm
  cells := trivial
  reads := List.Forall₂.nil
  frame := fun _ _ => rfl

theorem Stacked.length_eq (h : Stacked insts s past m vs) : vs.length = (openPushes past).length :=
  h.reads.length_eq.symm

/-- What the stack does not reach with one more instruction is as it was at first. -/
theorem Stacked.frame_append (h : Stacked insts s past m vs) {addr : Nat}
    (haddr : ¬ InSlots s.machine.sp (past ++ [inst]) addr) :
    m.memory.read addr = s.machine.memory.read addr := by
  refine h.frame addr fun hin => haddr ?_
  exact hin.mono (List.prefix_append past [inst])

/-- The invariant does not depend on more than the open pushes, the stack pointer and memory. -/
theorem Stacked.stay (h : Stacked insts s past m vs)
    (hopen : openPushes (past ++ [inst]) = openPushes past) (hsp : m'.sp = m.sp)
    (hmem : m'.memory = m.memory) : Stacked insts s (past ++ [inst]) m' vs where
  sp := by rw [hsp, h.sp]
  cells := by
    rw [hsp, hmem]
    exact h.cells
  reads := by
    rw [hopen]
    exact h.reads
  frame := by
    intro addr haddr
    rw [hmem]
    exact h.frame_append haddr

/-- The pushed value goes below the others, into a cell that none of them is in. -/
theorem Stacked.push (h : Stacked insts s past t.machine vs) (hd : Disciplined insts)
    (hpre : past ++ [.push reg] <+: insts) (hpast : executeAll past s = .ok () t)
    (hreg : reg.toNat < Registers.count) :
    Stacked insts s (past ++ [.push reg]) (t.machine.effect (.push reg))
      (t.machine.registers.value reg :: vs) := by
  have hsp : (t.machine.effect (.push reg)).sp = t.machine.sp - 1 := Registers.sp_setSp _ _
  have hmem : (t.machine.effect (.push reg)).memory =
      t.machine.memory.put (t.machine.sp - 1) (t.machine.registers.value reg) := rfl
  -- the cell that the push writes, seen from the first stack pointer
  have hbelow : t.machine.sp - 1 = s.machine.sp - UInt8.ofNat (vs.length + 1) := by
    rw [h.sp, UInt8.ofNat_add]
    grind
  have hlen : vs.length < Memory.size := by
    rw [h.length_eq]
    exact length_openPushes_lt hd hpre
  have hbefore : past <+: insts := (List.prefix_append past _).trans hpre
  refine ⟨?_, ?_, ?_, ?_⟩
  · rw [hsp, hbelow, List.length_cons]
  · rw [hsp, hmem]
    exact h.cells.put_below _ hlen
  · rw [openPushes_append]
    refine List.Forall₂.cons ?_ h.reads
    -- the place of this push is behind the whole past
    show ReadsAfter s (insts.take past.length) reg _
    rw [← List.prefix_iff_eq_take.1 hbefore]
    exact ⟨t, hpast, Registers.read_eq_value hreg⟩
  · intro addr haddr
    have hdepth : vs.length + 1 = depth (past ++ [.push reg]) := by
      rw [← length_openPushes_eq_depth hd hpre, openPushes_append, h.length_eq]
      rfl
    have hne : addr ≠ (t.machine.sp - 1).toNat := by
      intro heq
      refine haddr ⟨_, List.prefix_refl _, vs.length + 1, Nat.le_add_left 1 _, ?_, ?_⟩
      · exact Nat.le_of_eq hdepth
      · rw [heq, hbelow]
    rw [hmem, Memory.read_put, if_neg hne]
    exact h.frame_append haddr

/-- There is a value to pop, and it is the one that the latest open push read. -/
theorem Stacked.exists_cons (h : Stacked insts s past m vs) (hd : Disciplined insts)
    (hpre : past ++ [.pop reg] <+: insts) :
    ∃ k source rest v ws, openPushes past = (k, source) :: rest ∧ vs = v :: ws ∧
      ReadsAfter s (insts.take k) source v := by
  have hlen := length_openPushes hd ((List.prefix_append past _).trans hpre)
  have hreads := h.reads
  cases hopen : openPushes past with
  | nil =>
    rw [hopen, List.length_nil, Nat.zero_add] at hlen
    exact absurd hlen.symm (hd.pushes_ne_pops hpre)
  | cons k rest =>
    rw [hopen] at hreads
    cases hreads with
    | cons hfirst _ => exact ⟨k.1, k.2, rest, _, _, rfl, rfl, hfirst⟩

/-- The popped value leaves the stack to the others. -/
theorem Stacked.pop {v : UInt8} (h : Stacked insts s past m (v :: vs))
    (hnamed : (Instruction.pop reg).WellNamed)
    (hdest : (Instruction.pop reg).destination? ≠ some Registers.spIndex) :
    Stacked insts s (past ++ [.pop reg]) (m.effect (.pop reg)) vs := by
  have hsp : (m.effect (.pop reg)).sp = m.sp + 1 := effect_sp hnamed hdest m
  have hmem : (m.effect (.pop reg)).memory = m.memory := rfl
  refine ⟨?_, ?_, ?_, ?_⟩
  · rw [hsp, h.sp, List.length_cons, UInt8.ofNat_add]
    grind
  · rw [hsp, hmem]
    exact h.cells.2
  · rw [openPushes_append]
    have hreads := h.reads
    show List.Forall₂ _ (openPushes past).tail vs
    generalize openPushes past = opens at hreads
    cases hreads with
    | cons _ hrest => exact hrest
  · intro addr haddr
    rw [hmem]
    exact h.frame_append haddr

/-! ## Histories keep the invariant -/

/-- One instruction of a disciplined history keeps the invariant. -/
theorem stacked_append (hd : Disciplined insts) (hpre : past ++ [inst] <+: insts)
    (hpast : executeAll past s = .ok () t) (hnamed : inst.WellNamed)
    (h : Stacked insts s past t.machine vs) :
    ∃ ws, Stacked insts s (past ++ [inst]) (t.machine.effect inst) ws := by
  have hdest := hd.spIndex_spared hpre
  have hsp := effect_sp hnamed hdest t.machine
  have hmem := effect_memory inst t.machine
  have hopen := openPushes_append past inst
  cases inst with
  | push reg => exact ⟨_, h.push hd hpre hpast (hnamed.single rfl)⟩
  | pop reg =>
    obtain ⟨_, _, _, v, ws, -, rfl, -⟩ := h.exists_cons hd hpre
    exact ⟨ws, h.pop hnamed hdest⟩
  | _ => exact ⟨vs, h.stay hopen hsp hmem⟩

/-- So does a disciplined history up to any point. -/
theorem stacked_of_executeAll (hd : Disciplined insts) (hpre : past <+: insts)
    (hpast : executeAll past s = .ok () t) : ∃ vs, Stacked insts s past t.machine vs := by
  -- on the past from its end, since the invariant speaks of all of it
  induction past using List.reverseRecOn generalizing t with
  | nil =>
    obtain rfl := executeAll_nil_ok_iff.1 hpast
    exact ⟨[], stacked_nil⟩
  | append_singleton past inst ih =>
    obtain ⟨t', hpast', hlast⟩ := executeAll_append_ok_iff.1 hpast
    obtain ⟨vs, h⟩ := ih ((List.prefix_append past [inst]).trans hpre) hpast'
    obtain ⟨hnamed, -, rfl⟩ := execute_eq_ok_iff.1 (executeAll_singleton.1 hlast)
    exact stacked_append hd hpre hpast' hnamed h

/-- What the invariant says of the stack pointer. -/
theorem Stacked.sp_eq (h : Stacked insts s past m vs) (hd : Disciplined insts)
    (hpre : past <+: insts) : m.sp = s.machine.sp - UInt8.ofNat (depth past) := by
  rw [h.sp, h.length_eq, length_openPushes_eq_depth hd hpre]

/-- A popped register holds what the latest open push read. -/
theorem pop_reads (hd : Disciplined insts) (hpre : past ++ [.pop reg] <+: insts)
    (hpast : executeAll (past ++ [.pop reg]) s = .ok () t) :
    ∃ k source rest v, openPushes past = (k, source) :: rest ∧
      ReadsAfter s (insts.take k) source v ∧ t.machine.registers.read reg = .ok v := by
  obtain ⟨t', hpast', hlast⟩ := executeAll_append_ok_iff.1 hpast
  obtain ⟨vs, h⟩ := stacked_of_executeAll hd ((List.prefix_append past _).trans hpre) hpast'
  obtain ⟨k, source, rest, v, ws, hopen, rfl, hreads⟩ := h.exists_cons hd hpre
  obtain ⟨hnamed, -, rfl⟩ := execute_eq_ok_iff.1 (executeAll_singleton.1 hlast)
  have hreg : reg.toNat < Registers.count := hnamed.single rfl
  have hne : reg ≠ Registers.spIndex := fun h => hd.spIndex_spared hpre (congrArg some h)
  refine ⟨k, source, rest, v, hopen, hreads, ?_⟩
  rw [Registers.read_eq_value hreg]
  show Except.ok ((t'.machine.effect (.pop reg)).registers.value reg) = _
  rw [effect_pop_value hreg hne, h.cells.1]

/-- **`PUSH` and `POP` are a stack.** In a disciplined history that succeeds, at every point, the
stack pointer is below its first place by the depth, and no cell is changed that the stack has not
reached. Every popped register holds what the matching push, the latest open one, read from its
source. A history with as many pops as pushes therefore restores the stack pointer. -/
theorem stack_lifo (hd : Disciplined insts) (h : executeAll insts s = .ok () t) :
    (∀ past, past <+: insts → ∃ u, executeAll past s = .ok () u ∧
      u.machine.sp = s.machine.sp - UInt8.ofNat (depth past) ∧
      ∀ addr, ¬ InSlots s.machine.sp past addr →
        u.machine.memory.read addr = s.machine.memory.read addr) ∧
    (∀ past reg, past ++ [.pop reg] <+: insts →
      ∃ k source rest v, openPushes past = (k, source) :: rest ∧
        insts[k]? = some (.push source) ∧ ReadsAfter s (insts.take k) source v ∧
        ReadsAfter s (past ++ [.pop reg]) reg v) ∧
    (pushes insts = pops insts → t.machine.sp = s.machine.sp) := by
  -- a history that succeeds does so at every point
  have hreach : ∀ past, past <+: insts → ∃ u, executeAll past s = .ok () u := by
    rintro past ⟨future, rfl⟩
    obtain ⟨u, hpast, -⟩ := executeAll_append_ok_iff.1 h
    exact ⟨u, hpast⟩
  refine ⟨?_, ?_, ?_⟩
  · intro past hpre
    obtain ⟨u, hpast⟩ := hreach past hpre
    obtain ⟨vs, hst⟩ := stacked_of_executeAll hd hpre hpast
    exact ⟨u, hpast, hst.sp_eq hd hpre, hst.frame⟩
  · intro past reg hpre
    obtain ⟨u, hpast⟩ := hreach _ hpre
    obtain ⟨k, source, rest, v, hopen, hreads, hv⟩ := pop_reads hd hpre hpast
    have hk : (k, source) ∈ openPushes past := by
      rw [hopen]
      exact List.mem_cons_self ..
    have hpush := getElem?_of_mem_openPushes hk
    refine ⟨k, source, rest, v, hopen, ?_, hreads, u, hpast, hv⟩
    obtain ⟨future, rfl⟩ := (List.prefix_append past _).trans hpre
    rw [List.getElem?_append_left (List.getElem?_eq_some_iff.1 hpush).1, hpush]
  · -- the end is one of the points, at depth 0
    intro hbalanced
    obtain ⟨vs, hst⟩ := stacked_of_executeAll hd (List.prefix_refl insts) h
    rw [hst.sp_eq hd (List.prefix_refl insts), depth, hbalanced, Nat.sub_self]
    exact UInt8.sub_zero _

/-- Pushes around address 0, the stack pointer among the values, and pops everything. -/
def wrappingHistory : List Instruction :=
  [.loadImmediate 0 5, .push 0, .push 7, .loadImmediate 0 9, .push 0, .pop 1, .pop 2, .pop 3]

/-- A new machine whose stack reaches address 0 with the second push. -/
def nearZero : Session where
  machine := ofConfig { cpu := { stackPointerInit := 2 } }

theorem stack_lifo_wrappingHistory :
    Disciplined wrappingHistory ∧ ∃ t v, executeAll wrappingHistory nearZero = .ok () t ∧
      t.machine.sp = 2 ∧ ReadsAfter nearZero (wrappingHistory.take 1) 0 v ∧
      ReadsAfter nearZero wrappingHistory 3 v := by
  have hd : Disciplined wrappingHistory := ⟨by decide, by decide, by decide⟩
  have hnamed : ∀ i ∈ wrappingHistory, i.WellNamed := by decide +kernel
  obtain ⟨t, h⟩ := executeAll_total (s := nearZero) hnamed rfl
  obtain ⟨-, hpops, hbalanced⟩ := stack_lifo hd h
  obtain ⟨k, source, rest, v, hopen, -, hsource, hpopped⟩ :=
    hpops (wrappingHistory.take 7) 3 (List.prefix_refl _)
  -- the last pop answers the first push, which is behind one instruction
  obtain ⟨rfl, rfl⟩ := Prod.mk.inj (List.cons.inj hopen).1
  exact ⟨hd, t, v, h, hbalanced (by decide), hsource, hpopped⟩

end Machine

end Ls8
