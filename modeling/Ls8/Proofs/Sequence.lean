import Ls8.Proofs.Step

/-!
# Sequences of instructions

Instructions executed one after the other without being fetched from memory. This is the machine as
the instruction set defines it, apart from where its code stands; nothing is traced, logged or
counted.

Main results:

* `executeAll_append_ok_iff` — a sequence in two parts succeeds if both do, one after the other.
* `executeAll_total` — instructions whose operands name registers succeed on a stream without limit.
-/

namespace Ls8

namespace Machine

open Ls8.Action

/-- Executes instructions in order, up to the first that fails. -/
def executeAll : List Instruction → Action Unit
  | [] => pure ()
  | inst :: insts => do
    execute inst
    executeAll insts

variable {s t : Session} {inst : Instruction} {insts : List Instruction}

theorem executeAll_nil_ok_iff : executeAll [] s = .ok () t ↔ t = s := by
  constructor
  · intro h
    cases h
    rfl
  · rintro rfl
    rfl

theorem executeAll_cons_ok_iff :
    executeAll (inst :: insts) s = .ok () t ↔
      ∃ s', execute inst s = .ok () s' ∧ executeAll insts s' = .ok () t := by
  rw [executeAll, bind_eq_ok_iff]
  constructor
  · rintro ⟨_, s', hfirst, hrest⟩
    exact ⟨s', hfirst, hrest⟩
  · rintro ⟨s', hfirst, hrest⟩
    exact ⟨(), s', hfirst, hrest⟩

theorem executeAll_singleton : executeAll [inst] s = .ok () t ↔ execute inst s = .ok () t := by
  rw [executeAll_cons_ok_iff]
  constructor
  · rintro ⟨s', hfirst, hrest⟩
    obtain rfl := executeAll_nil_ok_iff.1 hrest
    exact hfirst
  · exact fun h => ⟨t, h, executeAll_nil_ok_iff.2 rfl⟩

/-- A sequence in two parts succeeds if both do, one after the other. -/
theorem executeAll_append_ok_iff {first second : List Instruction} :
    executeAll (first ++ second) s = .ok () t ↔
      ∃ s', executeAll first s = .ok () s' ∧ executeAll second s' = .ok () t := by
  induction first generalizing s with
  | nil =>
    constructor
    · exact fun h => ⟨s, rfl, h⟩
    · rintro ⟨s', h, hsecond⟩
      obtain rfl := executeAll_nil_ok_iff.1 h
      exact hsecond
  | cons i first ih =>
    simp only [List.cons_append, executeAll_cons_ok_iff, ih]
    constructor
    · rintro ⟨s₁, hi, s', hfirst, hsecond⟩
      exact ⟨s', ⟨s₁, hi, hfirst⟩, hsecond⟩
    · rintro ⟨s', ⟨s₁, hi, hfirst⟩, hsecond⟩
      exact ⟨s₁, hi, s', hfirst, hsecond⟩

/-! ## Streams without limit -/

/-- An instruction whose operands name registers succeeds on a stream without limit. -/
theorem execute_total (hnamed : inst.WellNamed) (hroom : s.output.room = none) :
    ∃ s', execute inst s = .ok () s' ∧ s'.output.room = none := by
  refine ⟨_, execute_eq_ok_iff.2 ⟨hnamed, Sink.hasRoomFor_of_none hroom _, rfl⟩, ?_⟩
  show s.output.room.map _ = none
  rw [hroom]
  rfl

theorem executeAll_total (hnamed : ∀ i ∈ insts, i.WellNamed) (hroom : s.output.room = none) :
    ∃ t, executeAll insts s = .ok () t := by
  induction insts generalizing s with
  | nil => exact ⟨s, rfl⟩
  | cons i insts ih =>
    obtain ⟨s', hfirst, hroom'⟩ := execute_total (hnamed i (List.mem_cons_self ..)) hroom
    obtain ⟨t, hrest⟩ := ih (fun j hj => hnamed j (List.mem_cons_of_mem _ hj)) hroom'
    exact ⟨t, executeAll_cons_ok_iff.2 ⟨s', hfirst, hrest⟩⟩

end Machine

end Ls8
