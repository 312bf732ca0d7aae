import Mathlib.Order.Bounds.Defs
import Ls8.Proofs.Path
import Ls8.Proofs.Stack

/-!
# Counters

What the counters say of the instructions that were counted, in order. Each kind of instruction has a
counter of its own; the totals are sums of these. The greatest depth is looked at after a `PUSH`
only, but nowhere else can the stack be deeper than it was before, so it is the maximum over all
beginnings of the history.

Main results:

* `foldl_record_counter` — a counter grows by the number of instructions of its kind.
* `foldl_record_total`, `foldl_record_printed` — the totals.
* `foldl_record_maxDepth` — the greatest depth of a history from zero.
* `foldl_record_plus` — without a `PUSH`, what is counted does not depend on what was counted before.
-/

namespace Ls8

theorem Instruction.isPush_eq_decide (inst : Instruction) :
    inst.isPush = decide (inst.opcode = .push) := by
  cases inst <;> rfl

theorem Instruction.isPop_eq_decide (inst : Instruction) :
    inst.isPop = decide (inst.opcode = .pop) := by
  cases inst <;> rfl

namespace Statistics

/-! ## One counter for each kind -/

/-- The counter of a kind of instruction. -/
def counter (st : Statistics) : Opcode → Nat
  | .hlt => st.halts
  | .ldi => st.loads
  | .prn => st.prints
  | .mul => st.arithmetic
  | .push => st.pushes
  | .pop => st.pops

/-- The sum of the counters of all kinds. -/
def total (st : Statistics) : Nat :=
  st.halts + st.loads + st.prints + st.arithmetic + st.pushes + st.pops

theorem record_counter (st : Statistics) (inst : Instruction) (op : Opcode) :
    (st.record inst).counter op = st.counter op + if inst.opcode = op then 1 else 0 := by
  cases inst <;> cases op <;> rfl

theorem foldl_record_counter (st : Statistics) (insts : List Instruction) (op : Opcode) :
    (insts.foldl record st).counter op =
      st.counter op + insts.countP fun inst => inst.opcode = op := by
  induction insts generalizing st with
  | nil => rfl
  | cons inst insts ih =>
    rw [List.foldl_cons, ih, record_counter, List.countP_cons]
    simp only [decide_eq_true_eq]
    omega

theorem foldl_record_counts (insts : List Instruction) :
    (insts.foldl record zero).pushes = Ls8.pushes insts ∧
      (insts.foldl record zero).pops = Ls8.pops insts := by
  have hpush := foldl_record_counter zero insts .push
  have hpop := foldl_record_counter zero insts .pop
  unfold Ls8.pushes Ls8.pops
  simp only [funext Instruction.isPush_eq_decide, funext Instruction.isPop_eq_decide]
  exact ⟨hpush.trans (Nat.zero_add _), hpop.trans (Nat.zero_add _)⟩

theorem foldl_record_depth (insts : List Instruction) :
    (insts.foldl record zero).depth = Ls8.depth insts := by
  obtain ⟨hpushes, hpops⟩ := foldl_record_counts insts
  rw [depth, hpushes, hpops]
  rfl

/-! ## Totals -/

theorem record_total (st : Statistics) (inst : Instruction) :
    (st.record inst).total = st.total + 1 := by
  cases inst <;> (simp only [total, record]; omega)

theorem foldl_record_total (st : Statistics) (insts : List Instruction) :
    (insts.foldl record st).total = st.total + insts.length := by
  induction insts generalizing st with
  | nil => rfl
  | cons inst insts ih =>
    rw [List.foldl_cons, ih, record_total, List.length_cons]
    omega

/-- Printed values are counted with the instructions that print them. -/
theorem record_printed (st : Statistics) (inst : Instruction) :
    (st.record inst).printed + st.prints = st.printed + (st.record inst).prints := by
  cases inst with
  | print reg =>
    show st.printed + 1 + st.prints = st.printed + (st.prints + 1)
    omega
  | _ => rfl

theorem foldl_record_printed (st : Statistics) (insts : List Instruction) :
    (insts.foldl record st).printed + st.prints =
      st.printed + (insts.foldl record st).prints := by
  induction insts generalizing st with
  | nil => rfl
  | cons inst insts ih =>
    have hfirst := record_printed st inst
    have hrest := ih (st.record inst)
    rw [List.foldl_cons]
    omega

/-! ## The greatest depth -/

theorem record_maxDepth (st : Statistics) (inst : Instruction) :
    (st.record inst).maxDepth =
      if inst.isPush then max st.maxDepth (st.record inst).depth else st.maxDepth := by
  cases inst <;> rfl

/-- Only a `PUSH` makes the stack deeper. -/
theorem depth_append_le {inst : Instruction} (h : inst.isPush = false) (past : List Instruction) :
    Ls8.depth (past ++ [inst]) ≤ Ls8.depth past := by
  unfold Ls8.depth
  rw [pushes_append, pops_append, h]
  simp only [Bool.false_eq_true, if_false]
  omega

/-- From zero, the greatest depth is the maximum over all beginnings of the history. -/
theorem foldl_record_maxDepth (insts : List Instruction) :
    IsGreatest { d | ∃ past, past <+: insts ∧ Ls8.depth past = d }
      (insts.foldl record zero).maxDepth := by
  -- from the end of the history, where the counters look at the depth
  induction insts using List.reverseRecOn with
  | nil =>
    refine ⟨⟨[], List.prefix_refl _, rfl⟩, ?_⟩
    rintro d ⟨past, hpast, rfl⟩
    rw [List.prefix_nil.1 hpast]
    exact Nat.le_refl 0
  | append_singleton insts inst ih =>
    obtain ⟨⟨best, hbest, hreached⟩, hbound⟩ := ih
    have hdepth := foldl_record_depth (insts ++ [inst])
    have hmax := record_maxDepth (insts.foldl record zero) inst
    simp only [List.foldl_append, List.foldl_cons, List.foldl_nil] at hdepth ⊢
    -- the beginnings are those of before and the whole history
    have hold : best <+: insts ++ [inst] := hbest.trans (List.prefix_append _ _)
    have hbefore : ∀ past, past <+: insts →
        Ls8.depth past ≤ (insts.foldl record zero).maxDepth :=
      fun past hpast => hbound ⟨past, hpast, rfl⟩
    by_cases hpush : inst.isPush = true
    · -- the depth behind a push is one of those compared
      rw [if_pos hpush, hdepth] at hmax
      refine ⟨?_, ?_⟩
      · rcases Nat.le_total (Ls8.depth (insts ++ [inst])) (insts.foldl record zero).maxDepth
          with hle | hle
        · exact ⟨best, hold, by rw [hreached, hmax, Nat.max_eq_left hle]⟩
        · exact ⟨_, List.prefix_refl _, by rw [hmax, Nat.max_eq_right hle]⟩
      · rintro d ⟨past, hpast, rfl⟩
        rw [hmax]
        rcases List.prefix_concat_iff.1 hpast with rfl | hpast'
        · exact Nat.le_max_right _ _
        · exact Nat.le_trans (hbefore past hpast') (Nat.le_max_left _ _)
    · -- without a push the counter stays, and so may the maximum
      rw [Bool.not_eq_true] at hpush
      rw [hpush, if_neg Bool.false_ne_true] at hmax
      rw [hmax]
      refine ⟨⟨best, hold, hreached⟩, ?_⟩
      rintro d ⟨past, hpast, rfl⟩
      rcases List.prefix_concat_iff.1 hpast with rfl | hpast'
      · exact Nat.le_trans (depth_append_le hpush insts) (hbefore insts (List.prefix_refl _))
      · exact hbefore past hpast'

/-! ## Counting apart -/

/-- The counters of two histories together; the greatest depths are added as well. -/
def plus (st added : Statistics) : Statistics where
  retired := st.retired + added.retired
  printed := st.printed + added.printed
  halts := st.halts + added.halts
  loads := st.loads + added.loads
  prints := st.prints + added.prints
  arithmetic := st.arithmetic + added.arithmetic
  pushes := st.pushes + added.pushes
  pops := st.pops + added.pops
  maxDepth := st.maxDepth + added.maxDepth

theorem plus_zero (st : Statistics) : st.plus zero = st := rfl

theorem record_plus {inst : Instruction} (h : inst.isPush = false) (st added : Statistics) :
    (st.plus added).record inst = st.plus (added.record inst) := by
  cases inst with
  | push reg => cases h
  | _ => rfl

theorem foldl_record_maxDepth_of_not_push {insts : List Instruction}
    (h : ∀ inst ∈ insts, inst.isPush = false) (st : Statistics) :
    (insts.foldl record st).maxDepth = st.maxDepth := by
  induction insts generalizing st with
  | nil => rfl
  | cons inst insts ih =>
    have hhere : inst.isPush = false := h inst (List.mem_cons_self ..)
    rw [List.foldl_cons, ih fun i hi => h i (List.mem_cons_of_mem _ hi), record_maxDepth, hhere]
    rfl

theorem foldl_record_plus {insts : List Instruction} (h : ∀ inst ∈ insts, inst.isPush = false)
    (st : Statistics) : insts.foldl record st = st.plus (insts.foldl record zero) := by
  -- also from the end, since the counters of before are those on the left of the sum
  induction insts using List.reverseRecOn with
  | nil => exact (plus_zero st).symm
  | append_singleton insts inst ih =>
    have hlast : inst.isPush = false :=
      h inst (List.mem_append_right _ (List.mem_singleton.2 rfl))
    have hbefore := ih fun i hi => h i (List.mem_append_left _ hi)
    simp only [List.foldl_append, List.foldl_cons, List.foldl_nil]
    rw [hbefore, record_plus hlast]

end Statistics

end Ls8
