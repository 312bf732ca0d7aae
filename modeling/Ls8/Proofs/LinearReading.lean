import Ls8.Listing
import Ls8.Proofs.Ending
import Ls8.Proofs.MachineCode

/-!
# Listings and runs

A listing reads memory as it stands, from address 0 and to no further than `len`; a run decodes what
it finds, and changes memory while it goes. As long as no `PUSH` writes into what is yet to be
decoded, the two find the same instructions at the same addresses, and where one cannot go on the
other cannot either. An instruction that begins below `len` may reach two bytes further, so the bytes
up to `len + 2` count.

The invariant is `AgreeOn`: from the program counter on, memory is as it was at the beginning.

Main results:

* `decode_eq_of_agreeOn` — the same instruction is found in memories that agree from there on.
* `listingFrom_of_path` — the listing goes along the path of a run, as far as `len`.
* `listing_predicts_run` — what a run decodes below `len` is the beginning of the listing, or all of it.
-/

namespace Ls8

namespace Listing

/-- The lines of those decoded instructions that begin below `len`. -/
def linesBelow (len : Nat) (decoded : List (Nat × Instruction)) : List Line :=
  (decoded.filter fun d => decide (d.1 < len)).map fun d => .instruction d.1 d.2

/-- Lines without a last one that shows data. -/
def withoutData : List Line → List Line
  | [] => []
  | [.data _ _] => []
  | line :: lines => line :: withoutData lines

theorem linesBelow_append (len : Nat) (first second : List (Nat × Instruction)) :
    linesBelow len (first ++ second) = linesBelow len first ++ linesBelow len second := by
  rw [linesBelow, List.filter_append, List.map_append]
  rfl

theorem linesBelow_cons_of_lt {len addr : Nat} (inst : Instruction)
    (decoded : List (Nat × Instruction)) (h : addr < len) :
    linesBelow len ((addr, inst) :: decoded) = .instruction addr inst :: linesBelow len decoded := by
  simp [linesBelow, h]

theorem linesBelow_cons_of_le {len addr : Nat} (inst : Instruction)
    (decoded : List (Nat × Instruction)) (h : len ≤ addr) :
    linesBelow len ((addr, inst) :: decoded) = linesBelow len decoded := by
  simp [linesBelow, Nat.not_lt.2 h]

theorem mem_linesBelow {len addr : Nat} {inst : Instruction} {decoded : List (Nat × Instruction)}
    (h : .instruction addr inst ∈ linesBelow len decoded) : (addr, inst) ∈ decoded := by
  obtain ⟨d, hd, heq⟩ := List.mem_map.1 h
  cases heq
  exact (List.mem_filter.1 hd).1

theorem withoutData_cons_instruction (addr : Nat) (inst : Instruction) (lines : List Line) :
    withoutData (.instruction addr inst :: lines) = .instruction addr inst :: withoutData lines :=
  rfl

/-- Lines of instructions stay, whatever comes behind them. -/
theorem withoutData_linesBelow_append (len : Nat) (decoded : List (Nat × Instruction))
    (lines : List Line) :
    withoutData (linesBelow len decoded ++ lines) = linesBelow len decoded ++ withoutData lines := by
  induction decoded with
  | nil => rfl
  | cons d decoded ih =>
    obtain ⟨addr, inst⟩ := d
    by_cases h : addr < len
    · rw [linesBelow_cons_of_lt _ _ h, List.cons_append, withoutData_cons_instruction, ih]
      rfl
    · rw [linesBelow_cons_of_le _ _ (Nat.le_of_not_lt h), ih]

end Listing

namespace Memory

variable {m m' : Memory} {first limit : Nat}

/-- Both memories hold the same at every address from `first` up to `limit`. -/
def AgreeOn (m m' : Memory) (first limit : Nat) : Prop :=
  ∀ addr, first ≤ addr → addr < limit → m.read addr = m'.read addr

/-- An instruction that begins below `len` takes no byte from `len + 2` on. -/
theorem decode_eq_of_agreeOn {len pc : Nat} (h : m.AgreeOn m' pc (min (len + 2) size))
    (hpc : pc < len) : m.decode pc = m'.decode pc := by
  have hread : ∀ k ≤ 2, m.read (pc + k) = m'.read (pc + k) := by
    intro k hk
    by_cases hsize : pc + k < size
    · exact h (pc + k) (by omega) (by omega)
    · -- outside memory both reads fail alike
      rw [read_of_le (by omega), read_of_le (by omega)]
  have h0 : m.read pc = m'.read pc := hread 0 (by omega)
  unfold decode
  rw [h0, hread 1 (by omega), hread 2 (by omega)]

/-- A change in front of `first`, or from `limit` on, is not seen between them. -/
theorem AgreeOn.put (h : m.AgreeOn m' first limit) {a : UInt8} (v : UInt8)
    (ha : ¬ (first ≤ a.toNat ∧ a.toNat < limit)) : m.AgreeOn (m'.put a v) first limit := by
  intro addr hfirst hlimit
  have hne : addr ≠ a.toNat := by
    rintro rfl
    exact ha ⟨hfirst, hlimit⟩
  rw [read_put, if_neg hne]
  exact h addr hfirst hlimit

theorem AgreeOn.mono {first' : Nat} (h : m.AgreeOn m' first limit) (hle : first ≤ first') :
    m.AgreeOn m' first' limit :=
  fun addr hfirst hlimit => h addr (Nat.le_trans hle hfirst) hlimit

/-- Where an instruction decodes below `len`, the listing has its line first. -/
theorem exists_listingFrom_cons {len pc : Nat} {inst : Instruction} (h : pc < len)
    (hd : m.decode pc = .ok inst) :
    ∃ lines, m.listingFrom len pc = .instruction pc inst :: lines := by
  by_cases hi : inst = .halt
  · subst hi
    exact ⟨[], listingFrom_halt h hd⟩
  · exact ⟨_, listingFrom_ok h hd hi⟩

end Memory

namespace Machine

open Ls8.Action Listing

/-- No `PUSH` that a run retires writes to an address from the instruction behind it up to `limit`. -/
def RunSpares (limit : Nat) (s : Session) : Prop :=
  ∀ trail t inst, Path s.started trail t → Passes t inst → Spares limit inst t (t.retire inst)

variable {m : Memory} {s t : Session} {trail : List (Nat × Instruction)} {len limit : Nat}
  {inst : Instruction} {r : Outcome}

/-! ## One instruction -/

/-- An instruction that spares what is behind it leaves memory as it was from there on. -/
theorem agreeOn_retire (h : m.AgreeOn s.machine.memory s.machine.pc limit) (hpass : Passes s inst)
    (hspares : Spares limit inst s (s.retire inst)) :
    m.AgreeOn (s.retire inst).machine.memory (s.retire inst).machine.pc limit := by
  have hpc : s.machine.pc ≤ (s.retire inst).machine.pc := by
    rw [retire_pc hpass]
    exact Nat.le_add_right _ _
  have hlater := h.mono hpc
  have hmem : (s.retire inst).machine.memory = _ := effect_memory inst s.machine
  rw [hmem]
  cases inst with
  | push reg => exact hlater.put _ hspares
  | _ => exact hlater

/-! ## Along a path -/

/-- The listing of memory as it was goes along the path of a run, as far as `len`. -/
theorem listingFrom_of_path (h : Path s trail t)
    (hagree : m.AgreeOn s.machine.memory s.machine.pc (min (len + 2) Memory.size))
    (hspares : ∀ past u inst, Path s past u → Passes u inst →
      Spares (min (len + 2) Memory.size) inst u (u.retire inst)) :
    m.listingFrom len s.machine.pc = linesBelow len trail ++ m.listingFrom len t.machine.pc ∧
      m.AgreeOn t.machine.memory t.machine.pc (min (len + 2) Memory.size) := by
  induction h using path_induction with
  | nil s => exact ⟨rfl, hagree⟩
  | cons s inst trail t hpass hrest ih =>
    have hagree' := agreeOn_retire hagree hpass (hspares [] s inst (.nil s) hpass)
    obtain ⟨hlines, hend⟩ := ih hagree' fun past u inst' hpast hpass' =>
      hspares _ u inst' (path_cons_iff.2 ⟨rfl, hpass, hpast⟩) hpass'
    rw [retire_pc hpass] at hlines
    refine ⟨?_, hend⟩
    by_cases hlt : s.machine.pc < len
    · have hd : m.decode s.machine.pc = .ok inst := by
        rw [Memory.decode_eq_of_agreeOn hagree hlt]
        exact hpass.decoded
      rw [Memory.listingFrom_ok hlt hd hpass.goesOn, linesBelow_cons_of_lt _ _ hlt, hlines]
      rfl
    · -- behind `len` neither has lines any more
      have hle : len ≤ s.machine.pc := Nat.le_of_not_lt hlt
      rw [linesBelow_cons_of_le _ _ hle, ← hlines, Memory.listingFrom_of_le hle,
        Memory.listingFrom_of_le (Nat.le_add_right_of_le hle)]

/-! ## At the end -/

/-- What stands at the program counter when a run ends is the next line of the listing, if there is
one; and unless an operand or the stream was at fault, it is the last. -/
theorem listingFrom_of_ending (h : Ending t r)
    (hagree : m.AgreeOn t.machine.memory t.machine.pc (min (len + 2) Memory.size)) :
    linesBelow len t.fetched <+: withoutData (m.listingFrom len t.machine.pc) ∧
      ((∀ reg, fault? r ≠ some (.invalidRegister reg)) → fault? r ≠ some .outputRefused →
        linesBelow len t.fetched = withoutData (m.listingFrom len t.machine.pc) ∧
        ∀ addr, .instruction addr .halt ∈ m.listingFrom len t.machine.pc →
          fault? r = none ∧ t.fetched = [(addr, .halt)]) := by
  have hfetched : ∀ inst, t.machine.memory.decode t.machine.pc = .ok inst →
      t.fetched = [(t.machine.pc, inst)] := by
    intro inst hd
    rw [Session.fetched, hd]
  by_cases hlt : t.machine.pc < len
  · have hd := Memory.decode_eq_of_agreeOn hagree hlt
    -- a decoded instruction is the first line, whether or not it can be executed
    have hbegins : ∀ inst, t.machine.memory.decode t.machine.pc = .ok inst →
        linesBelow len t.fetched <+: withoutData (m.listingFrom len t.machine.pc) := by
      intro inst hdecode
      obtain ⟨lines, hlines⟩ := Memory.exists_listingFrom_cons hlt (hd.trans hdecode)
      rw [hfetched inst hdecode, linesBelow_cons_of_lt _ _ hlt, hlines]
      exact List.prefix_append [_] _
    cases h with
    | undecoded hfault =>
      have hnone : t.fetched = [] := by rw [Session.fetched, hfault]
      rw [hnone, Memory.listingFrom_error hlt (hd.trans hfault)]
      refine ⟨List.prefix_refl _, fun _ _ => ⟨rfl, fun addr hmem => ?_⟩⟩
      cases List.mem_singleton.1 hmem
    | @stray inst reg hdecode _ =>
      exact ⟨hbegins inst hdecode, fun hstray _ => absurd rfl (hstray reg)⟩
    | @refused inst hdecode _ _ =>
      exact ⟨hbegins inst hdecode, fun _ hrefused => absurd rfl hrefused⟩
    | halted hdecode =>
      refine ⟨hbegins .halt hdecode, fun _ _ => ?_⟩
      rw [hfetched .halt hdecode, Memory.listingFrom_halt hlt (hd.trans hdecode),
        linesBelow_cons_of_lt _ _ hlt]
      refine ⟨rfl, fun addr hmem => ⟨rfl, ?_⟩⟩
      cases List.mem_singleton.1 hmem
      rfl
  · -- all lines were passed before
    have hle : len ≤ t.machine.pc := Nat.le_of_not_lt hlt
    have hnone : linesBelow len t.fetched = [] := by
      cases hdecode : t.machine.memory.decode t.machine.pc with
      | error f => rw [Session.fetched, hdecode]; rfl
      | ok inst => rw [hfetched inst hdecode, linesBelow_cons_of_le _ _ hle]; rfl
    rw [hnone, Memory.listingFrom_of_le hle]
    refine ⟨List.prefix_refl _, fun _ _ => ⟨rfl, fun addr hmem => ?_⟩⟩
    cases hmem

/--
**A listing predicts the run.** Let a run begin at address 0, and let no `PUSH` that it retires write
to an address from the instruction behind it up to `len + 2`. Then the lines of the instructions that
it decodes below `len` are the first lines of the listing of memory as it was before the run, without
a last line that shows data.

They are all of these lines unless the run ended because an operand named no register or a line was
refused. If in that case the last line of the listing is a `HLT`, the run halts, and that `HLT` is the
last instruction that it decodes.
-/
theorem listing_predicts_run {s : Session} {len : Nat} (hpc : s.machine.pc = 0)
    (hspares : RunSpares (min (len + 2) Memory.size) s) :
    ∃ decoded, (finalSession (run s)).decodings = s.decodings ++ decoded ∧
      linesBelow len decoded <+: withoutData (s.machine.memory.listing len) ∧
      ((∀ reg, fault? (run s) ≠ some (.invalidRegister reg)) →
        fault? (run s) ≠ some .outputRefused →
        linesBelow len decoded = withoutData (s.machine.memory.listing len) ∧
        ∀ addr, (s.machine.memory.listing len).getLast? = some (.instruction addr .halt) →
          fault? (run s) = none ∧ decoded.getLast? = some (addr, .halt)) := by
  obtain ⟨trail, t, hpath, hending⟩ := exists_path_ending s
  have hdecoded := decodings_of_ending hpath hending
  -- at the beginning memory is as it was
  obtain ⟨hlines, hagree⟩ := listingFrom_of_path (m := s.machine.memory) hpath
    (fun _ _ _ => rfl) hspares
  have hlisting : s.machine.memory.listing len =
      linesBelow len trail ++ s.machine.memory.listingFrom len t.machine.pc := by
    rw [← hlines, Memory.listing]
    exact congrArg _ hpc.symm
  obtain ⟨hbegins, hall⟩ := listingFrom_of_ending hending hagree
  refine ⟨trail ++ t.fetched, hdecoded, ?_, fun hstray hrefused => ?_⟩
  · rw [hlisting, withoutData_linesBelow_append, linesBelow_append]
    exact (List.prefix_append_right_inj _).2 hbegins
  · obtain ⟨heq, hhalt⟩ := hall hstray hrefused
    refine ⟨?_, fun addr hlastLine => ?_⟩
    · rw [hlisting, withoutData_linesBelow_append, linesBelow_append, heq]
    · rw [hlisting] at hlastLine
      -- the `HLT` is none of the instructions on the path, which all went on
      have hmem : .instruction addr .halt ∈ s.machine.memory.listingFrom len t.machine.pc := by
        rcases List.mem_append.1 (List.mem_of_getLast? hlastLine) with hpast | hend
        · have hinst := List.mem_map_of_mem (f := Prod.snd) (mem_linesBelow hpast)
          exact absurd rfl (path_goesOn hpath _ hinst)
        · exact hend
      obtain ⟨hfault, hfetched⟩ := hhalt addr hmem
      refine ⟨hfault, ?_⟩
      rw [hfetched, List.getLast?_concat]

/-- Beside a path, the execution of its instructions and one more spares what that one spares. -/
theorem spares_of_sparesCode {st : Statistics} {u : Session} {rest : List Instruction}
    (hpath : Path s trail t) (hpass : Passes t inst) (h : Shadows st u s)
    (hspares : SparesCode limit (instructionsOf trail ++ inst :: rest) u) :
    Spares limit inst t (t.retire inst) := by
  induction hpath using path_induction generalizing u st with
  | nil s =>
    obtain ⟨u', hexec, hshadow⟩ := exists_execute_of_passes h hpass
    have hhere := ((sparesCode_cons_iff hexec).1 hspares).1
    -- stack pointer and program counter are the same on both sides
    cases inst with
    | push reg =>
      show ¬ ((s.retire (.push reg)).machine.pc ≤ (s.machine.sp - 1).toNat ∧
        (s.machine.sp - 1).toNat < limit)
      rw [hshadow.machine, h.machine]
      exact hhere
    | _ => trivial
  | cons s first trail t hfirst hrest ih =>
    obtain ⟨u', hexec, hshadow⟩ := exists_execute_of_passes h hfirst
    exact ih hpass hshadow ((sparesCode_cons_iff hexec).1 hspares).2

/-- It is enough to look at the execution of what a run decodes. -/
theorem runSpares_of_decodings {decoded : List (Nat × Instruction)}
    (hdecoded : (finalSession (run s)).decodings = s.decodings ++ decoded)
    (h : SparesCode limit (instructionsOf decoded) s.started) : RunSpares limit s := by
  intro trail t inst hpath hpass
  -- the instruction is decoded behind those of the trail
  obtain ⟨rest, hrest⟩ := path_decodings_run (path_concat hpath hpass)
  obtain rfl : decoded = trail ++ [(t.machine.pc, inst)] ++ rest :=
    List.append_cancel_left (hdecoded.symm.trans hrest)
  rw [instructionsOf, List.append_assoc, List.map_append] at h
  exact spares_of_sparesCode hpath hpass (shadows_started s) h

/-- A new machine with a stack below its third instruction. -/
def pushOverItself : Session where
  machine :=
    { ofConfig { cpu := { stackPointerInit := 5 } } with
      memory := (Memory.zero.load [130, 0, 8, 69, 0, 71, 0, 1, 9]).toOption.getD .zero }

/-- The `PUSH` writes over its own operand, which the listing shows as it was before. -/
theorem listing_predicts_run_pushOverItself :
    (finalSession (run pushOverItself)).machine.memory.cell 4 = 8 ∧
      fault? (run pushOverItself) = none ∧
      ∃ decoded, (finalSession (run pushOverItself)).decodings = decoded ∧
        linesBelow 9 decoded = withoutData (pushOverItself.machine.memory.listing 9) ∧
        decoded.getLast? = some (7, .halt) := by
  have hdecoded : (finalSession (run pushOverItself)).decodings =
      pushOverItself.decodings ++ (finalSession (run pushOverItself)).decodings := rfl
  have hspares : RunSpares (min (9 + 2) Memory.size) pushOverItself := by
    refine runSpares_of_decodings hdecoded ?_
    decide +kernel
  have hfault : fault? (run pushOverItself) = none := by
    decide +kernel
  have hlisting : (pushOverItself.machine.memory.listing 9).getLast? =
      some (.instruction 7 .halt) := by
    decide +kernel
  have hmem : (finalSession (run pushOverItself)).machine.memory.cell 4 = 8 := by
    decide +kernel
  obtain ⟨decoded, hread, -, hall⟩ := listing_predicts_run rfl hspares
  rw [hfault] at hall
  obtain ⟨heq, hlast⟩ := hall (fun _ h => nomatch h) (fun h => nomatch h)
  exact ⟨hmem, hfault, decoded, hread, heq, (hlast 7 hlisting).2⟩

end Machine

end Ls8
