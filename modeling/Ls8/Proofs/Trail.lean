import Ls8.Proofs.Termination

/-!
# What a trail determines

The trail of a path names the instructions that were retired. Together with the machine at the
beginning it determines the machine at the end and everything that was printed, whatever was written
or logged before. So a path can be walked again from any session with the same machine, as long as
the stream takes the text; and two paths from one session differ only in how far they go.

Main results:

* `path_append_iff` — a path in two parts.
* `path_machine`, `path_output` — machine and output at the end, from machine, output and trail.
* `path_again` — the same path from another session.
* `path_rest` — a path is the beginning of every run from its first session.
-/

namespace Ls8

namespace Sink

variable {k : Sink} {a b : List Char}

/-- There is room for two texts if there is room for the first, and then for the second. -/
theorem hasRoomFor_append_iff :
    k.hasRoomFor (a ++ b) = true ↔ k.hasRoomFor a = true ∧ (k.write a).hasRoomFor b = true := by
  obtain ⟨written, room⟩ := k
  cases room with
  | none => simp [hasRoomFor, write]
  | some n =>
    simp only [hasRoomFor, write, Option.map_some, List.length_append, decide_eq_true_eq]
    omega

/-- Two texts written one after the other are cut where the two together would be. -/
theorem write_append (k : Sink) (a b : List Char) : k.write (a ++ b) = (k.write a).write b := by
  obtain ⟨written, room⟩ := k
  cases room with
  | none => simp [write, accepts]
  | some n => simp [write, accepts, List.take_append, Nat.sub_sub]

/-- A stream without limit stays one. -/
theorem room_write_of_none (h : k.room = none) (text : List Char) : (k.write text).room = none := by
  show k.room.map _ = none
  rw [h]
  rfl

theorem written_of_hasRoomFor (h : k.hasRoomFor a = true) :
    (k.write a).written = k.written ++ a := by
  rw [write_written, accepts_of_hasRoomFor h]

end Sink

namespace Machine

open Ls8.Action

/-! ## Machines and texts -/

/-- The machine after instructions were executed and counted, in order. -/
def retireAll (m : Machine) (insts : List Instruction) : Machine :=
  insts.foldl (fun m inst => (m.effect inst).retire inst) m

/-- What instructions print when they are executed in order. -/
def transcript : Machine → List Instruction → List Char
  | _, [] => []
  | m, inst :: insts => m.printed inst ++ transcript ((m.effect inst).retire inst) insts

/-- The instructions of a trail. -/
abbrev instructionsOf (trail : List (Nat × Instruction)) : List Instruction := trail.map Prod.snd

variable {s t u : Session} {first second trail : List (Nat × Instruction)}

/-- A path in two parts goes through the session between them. -/
theorem path_append_iff :
    Path s (first ++ second) t ↔ ∃ u, Path s first u ∧ Path u second t := by
  induction first generalizing s with
  | nil =>
    constructor
    · exact fun h => ⟨s, .nil s, h⟩
    · rintro ⟨u, hfirst, hsecond⟩
      obtain rfl := path_nil_iff.1 hfirst
      exact hsecond
  | cons head first ih =>
    obtain ⟨addr, inst⟩ := head
    simp only [List.cons_append, path_cons_iff, ih]
    constructor
    · rintro ⟨haddr, hpass, u, hfirst, hsecond⟩
      exact ⟨u, ⟨haddr, hpass, hfirst⟩, hsecond⟩
    · rintro ⟨u, ⟨haddr, hpass, hfirst⟩, hsecond⟩
      exact ⟨haddr, hpass, u, hfirst, hsecond⟩

/-- A path and one more instruction. -/
theorem path_concat {inst : Instruction} (h : Path s trail t) (hpass : Passes t inst) :
    Path s (trail ++ [(t.machine.pc, inst)]) (t.retire inst) :=
  path_append_iff.2 ⟨t, h, path_cons_iff.2 ⟨rfl, hpass, .nil _⟩⟩

theorem path_machine (h : Path s trail t) :
    t.machine = s.machine.retireAll (instructionsOf trail) := by
  induction h using path_induction with
  | nil s => rfl
  | cons s inst trail t hpass hrest ih => exact ih

theorem path_output (h : Path s trail t) :
    t.output = s.output.write (s.machine.transcript (instructionsOf trail)) := by
  induction h using path_induction with
  | nil s => exact s.output.write_nil.symm
  | cons s inst trail t hpass hrest ih =>
    rw [ih]
    exact (Sink.write_append _ _ _).symm

/-- Along a path the stream took all that was printed. -/
theorem path_hasRoomFor (h : Path s trail t) :
    s.output.hasRoomFor (s.machine.transcript (instructionsOf trail)) = true := by
  induction h using path_induction with
  | nil s => exact s.output.hasRoomFor_nil
  | cons s inst trail t hpass hrest ih => exact Sink.hasRoomFor_append_iff.2 ⟨hpass.room, ih⟩

theorem path_written (h : Path s trail t) :
    t.output.written = s.output.written ++ s.machine.transcript (instructionsOf trail) := by
  rw [path_output h, Sink.written_of_hasRoomFor (path_hasRoomFor h)]

/-- No instruction of a trail is a `HLT`. -/
theorem path_goesOn (h : Path s trail t) : ∀ inst ∈ instructionsOf trail, inst ≠ .halt := by
  induction h using path_induction with
  | nil s =>
    intro inst hinst
    cases hinst
  | cons s inst trail t hpass hrest ih =>
    intro inst' hinst'
    rcases List.mem_cons.1 hinst' with rfl | hmem
    · exact hpass.goesOn
    · exact ih inst' hmem

/-! ## The same path again -/

/-- An instruction passes wherever the machine is the same and the stream takes what it prints. -/
theorem passes_again {inst : Instruction} (h : Passes s inst) (hm : u.machine = s.machine)
    (hroom : u.output.hasRoomFor (s.machine.printed inst) = true) : Passes u inst where
  decoded := by
    rw [hm]
    exact h.decoded
  goesOn := h.goesOn
  named := h.named
  room := by
    rw [hm]
    exact hroom
  running := by
    rw [hm]
    exact h.running

/-- A path can be walked from any session with the same machine whose stream takes the text. -/
theorem path_again (h : Path s trail t) (hm : u.machine = s.machine)
    (hroom : u.output.hasRoomFor (s.machine.transcript (instructionsOf trail)) = true) :
    ∃ v, Path u trail v ∧ v.machine = t.machine ∧
      v.output = u.output.write (s.machine.transcript (instructionsOf trail)) := by
  have hpath : ∃ v, Path u trail v := by
    induction h using path_induction generalizing u with
    | nil s => exact ⟨u, .nil u⟩
    | cons s inst trail t hpass hrest ih =>
      obtain ⟨hhere, hlater⟩ := Sink.hasRoomFor_append_iff.1 hroom
      have hpass' := passes_again hpass hm hhere
      -- behind the instruction the machines are the same again
      have hm' : (u.retire inst).machine = (s.retire inst).machine := by
        show (u.machine.effect inst).retire inst = _
        rw [hm]
        rfl
      have hroom' : (u.retire inst).output.hasRoomFor
          ((s.retire inst).machine.transcript (instructionsOf trail)) = true := by
        show (u.output.write (u.machine.printed inst)).hasRoomFor _ = true
        rw [hm]
        exact hlater
      obtain ⟨v, hv⟩ := ih hm' hroom'
      exact ⟨v, path_cons_iff.2 ⟨by rw [hm], hpass', hv⟩⟩
  obtain ⟨v, hv⟩ := hpath
  refine ⟨v, hv, ?_, ?_⟩
  · rw [path_machine hv, path_machine h, hm]
  · rw [path_output hv, hm]

/-! ## The whole run -/

/-- A session from which an instruction passes is not the last of a run. -/
theorem not_last_of_passes {inst : Instruction} {r : Outcome} (h : Passes s inst) : ¬ Last s r := by
  have hstep := step_running_iff.2 ⟨inst, h, rfl⟩
  intro hlast
  cases hlast with
  | fault hfault =>
    rw [hstep] at hfault
    cases hfault
  | halt hhalt =>
    rw [hstep] at hhalt
    cases hhalt

/-- A path that has come to a last step goes on from wherever another path has come to. -/
theorem path_rest {full : List (Nat × Instruction)} {r : Outcome} (h : Path s trail t)
    (hfull : Path s full u) (hlast : Last u r) : ∃ rest, full = trail ++ rest ∧ Path t rest u := by
  induction h using path_induction generalizing full with
  | nil s => exact ⟨full, rfl, hfull⟩
  | cons s inst trail t hpass hrest ih =>
    cases full with
    | nil =>
      obtain rfl := path_nil_iff.1 hfull
      exact absurd hlast (not_last_of_passes hpass)
    | cons head full =>
      obtain ⟨addr, inst'⟩ := head
      obtain ⟨rfl, hpass', hfull'⟩ := path_cons_iff.1 hfull
      -- there is only one instruction that both can have decoded
      obtain rfl : inst' = inst := Except.ok.inj (hpass'.decoded.symm.trans hpass.decoded)
      obtain ⟨rest, rfl, hpath⟩ := ih hfull'
      exact ⟨rest, rfl, hpath⟩

/-- The instructions of a path from the beginning of a run are the first that the run decodes. -/
theorem path_decodings_run (h : Path s.started trail t) :
    ∃ rest, (finalSession (run s)).decodings = s.decodings ++ (trail ++ rest) := by
  obtain ⟨full, u, hfull, hlast⟩ := exists_path_last s.started
  obtain ⟨rest, rfl, -⟩ := path_rest h hfull hlast
  refine ⟨rest ++ u.fetched, ?_⟩
  rw [run_eq_runOn, last_decodings hlast (path_running hfull rfl), path_decodings hfull]
  simp only [List.append_assoc]
  rfl

end Machine

end Ls8
