import Ls8.Proofs.Ending

/-!
# Cut and resumed runs

A stream that takes only so many characters cuts the output of a run and changes nothing else. Up to
the first line that does not fit, the run on such a stream goes beside the run on a stream without
limit; there it stops, with the machine as it was before that line. Run again from there, without
limit, it does what the other run did from that point on, so the line is printed as a whole.

The cut is found by induction on the path of the unlimited run (`exists_overflow`). The two other runs
follow from what a trail determines.

Main results:

* `run_unlimited` — a run without limit is a path, and an ending that prints nothing.
* `exists_overflow` — a path that prints too much comes to a `PRN` whose line is the first not to fit.
* `cut_at_overflow`, `resume_at_overflow` — what happens there, and what happens from there on.
* `run_cut_and_resumed` — the relation of the three runs.
-/

namespace Ls8

/-- The session with a new output stream that has so much room. -/
def Session.redirect (s : Session) (room : Option Nat) : Session :=
  { s with output := { room := room } }

namespace Sink

/-- A new stream has room for a text that is no longer than its limit. -/
theorem hasRoomFor_new_iff {limit : Nat} {text : List Char} :
    Sink.hasRoomFor { room := some limit } text = true ↔ text.length ≤ limit :=
  decide_eq_true_iff

/-- A new stream has taken as much of a text as its limit admits. -/
theorem written_write_new (limit : Nat) (text : List Char) :
    (Sink.write { room := some limit } text).written = text.take limit :=
  List.nil_append _

end Sink

namespace Machine

open Ls8.Action

/-- At the program counter of `t` stands a `PRN`. What was printed before it is within the limit, and
its line goes past that. -/
structure Overflows (limit : Nat) (t : Session) (reg : UInt8) : Prop where
  decoded : t.machine.memory.decode t.machine.pc = .ok (.print reg)
  named   : reg.toNat < Registers.count
  before  : t.output.written.length ≤ limit
  behind  : limit < t.output.written.length + (t.machine.printed (.print reg)).length

/-- Two runs end alike: with the same fault or without one, and with the same machine. -/
structure EndAlike (r r' : Outcome) : Prop where
  fault   : fault? r = fault? r'
  machine : (finalSession r).machine = (finalSession r').machine

variable {s t u : Session} {trail : List (Nat × Instruction)} {limit : Nat}

/-! ## Without limit -/

/-- A run without limit is a path and an ending that prints nothing more. -/
theorem run_unlimited (s : Session) (hroom : s.output.room = none) :
    ∃ trail t, Path s.started trail t ∧ Ending t (run s) ∧ t.output.room = none ∧
      (finalSession (run s)).output = t.output := by
  obtain ⟨trail, t, hpath, hending⟩ := exists_path_ending s
  have hroom' : t.output.room = none := by
    rw [path_output hpath]
    exact Sink.room_write_of_none hroom _
  obtain ⟨_, -, -, -, -, hout⟩ := ending_again hending hroom' rfl
  exact ⟨trail, t, hpath, hending, hroom', hout⟩

/-- A run goes as another did that begins with the same machine: along the same path to the same
ending, if the other has no limit and the stream has room for what the other printed. -/
theorem run_again {r : Outcome} (hpath : Path s trail t) (hending : Ending t r)
    (hroom : t.output.room = none) (hm : u.started.machine = s.machine)
    (htext : u.output.hasRoomFor (s.machine.transcript (instructionsOf trail)) = true) :
    EndAlike (run u) r ∧
      (finalSession (run u)).output =
        u.output.write (s.machine.transcript (instructionsOf trail)) := by
  obtain ⟨v, hv, hvm, hvo⟩ := path_again (u := u.started) hpath hm htext
  obtain ⟨r', hending', hfault, hmachine, hout, -⟩ := ending_again hending hroom hvm
  rw [run_eq_of_ending hv hending']
  exact ⟨⟨hfault, hmachine⟩, hout.trans hvo⟩

/-! ## The line that does not fit -/

/-- A path without limit that prints too much comes to a `PRN` whose line is the first not to fit,
and goes on behind it. -/
theorem exists_overflow (h : Path s trail t) (hroom : s.output.room = none)
    (hfits : s.output.written.length ≤ limit) (hover : limit < t.output.written.length) :
    ∃ first second u reg, trail = first ++ second ∧ Path s first u ∧ Path u second t ∧
      Overflows limit u reg ∧
      u.output.written ++ u.machine.printed (.print reg) <+: t.output.written := by
  induction h using path_induction with
  | nil s => omega
  | cons s inst trail t hpass hrest ih =>
    have hwritten : (s.retire inst).output.written =
        s.output.written ++ s.machine.printed inst :=
      Sink.written_of_hasRoomFor hpass.room
    have hroom' : (s.retire inst).output.room = none := Sink.room_write_of_none hroom _
    by_cases hnext : (s.retire inst).output.written.length ≤ limit
    · -- what this instruction prints still fits
      obtain ⟨first, second, u, reg, rfl, hfirst, hsecond, hoverflows⟩ := ih hroom' hnext hover
      exact ⟨(s.machine.pc, inst) :: first, second, u, reg, rfl,
        path_cons_iff.2 ⟨rfl, hpass, hfirst⟩, hsecond, hoverflows⟩
    · have hbehind : limit < s.output.written.length + (s.machine.printed inst).length := by
        rw [hwritten, List.length_append] at hnext
        omega
      have hprints : s.machine.printed inst ≠ [] := by
        intro hnil
        rw [hnil, List.length_nil] at hbehind
        omega
      obtain ⟨reg, rfl⟩ := exists_print_of_printed_ne_nil hprints
      refine ⟨[], (s.machine.pc, .print reg) :: trail, s, reg, rfl, .nil s,
        path_cons_iff.2 ⟨rfl, hpass, hrest⟩,
        ⟨hpass.decoded, hpass.named.single rfl, hfits, hbehind⟩, ?_⟩
      rw [path_written hrest, hwritten]
      exact List.prefix_append _ _

/-- A run on a stream with that limit stops at the line that does not fit. -/
theorem cut_at_overflow (h : Path (s.redirect none).started trail t) {reg : UInt8}
    (hover : Overflows limit t reg) :
    fault? (run (s.redirect (some limit))) = some .outputRefused ∧
      (finalSession (run (s.redirect (some limit)))).machine = t.machine ∧
      (finalSession (run (s.redirect (some limit)))).output.written =
        (t.output.written ++ t.machine.printed (.print reg)).take limit := by
  have hwritten : t.output.written =
      (s.redirect none).started.machine.transcript (instructionsOf trail) := path_written h
  have hfits := Sink.hasRoomFor_new_iff.2 hover.before
  rw [hwritten] at hfits
  -- the same path leads to the line on the bounded stream
  obtain ⟨v, hv, hvm, hvo⟩ := path_again (u := (s.redirect (some limit)).started) h rfl hfits
  rw [← hwritten] at hvo
  have hd : v.machine.memory.decode v.machine.pc = .ok (.print reg) := by
    rw [hvm]
    exact hover.decoded
  have hnamed : (Instruction.print reg).WellNamed := by
    intro r hr
    obtain rfl := List.mem_singleton.1 hr
    exact hover.named
  have hfull : v.output.hasRoomFor (v.machine.printed (.print reg)) = false := by
    rw [hvo, hvm, Bool.eq_false_iff]
    intro hroom
    -- there would be room for the line together with what was printed before it
    have hboth := Sink.hasRoomFor_append_iff.2 ⟨Sink.hasRoomFor_new_iff.2 hover.before, hroom⟩
    have hlength := Sink.hasRoomFor_new_iff.1 hboth
    have hbehind := hover.behind
    rw [List.length_append] at hlength
    omega
  rw [run_eq_of_ending hv (.refused hd hnamed hfull)]
  refine ⟨rfl, (v.announce_refuse_machine _).trans hvm, ?_⟩
  show ((v.announce (.print reg)).refuse (.print reg)).output.written = _
  rw [v.announce_refuse_output, hvm, hvo, ← Sink.write_append]
  exact Sink.written_write_new limit _

/-- Run again without limit from where it was cut, a run goes on as the run without limit did from
there, and prints what that printed from there. -/
theorem resume_at_overflow {r : Outcome} (h : Path u trail t) (hending : Ending t r)
    (hrun : u.machine.state = .running) (hroom : t.output.room = none)
    (hm : s.machine = u.machine) :
    EndAlike (run (s.redirect none)) r ∧
      t.output.written = u.output.written ++ (finalSession (run (s.redirect none))).output.written := by
  have hstart : (s.redirect none).started.machine = u.machine := by
    show { s.machine with state := .running } = u.machine
    rw [hm, ← hrun]
  obtain ⟨halike, hout⟩ :=
    run_again h hending hroom hstart (Sink.hasRoomFor_of_none rfl _)
  refine ⟨halike, ?_⟩
  rw [path_written h, hout]
  rfl

/--
**Cut and resumed runs.** Let `text` be what a run prints without limit. On a stream that takes
`limit` characters in all the same run

* ends alike and prints the same if the text fits;
* otherwise ends because a line was refused, after exactly the first `limit` characters of the text.
  It leaves the machine of some point `t` of the unlimited run: there a `PRN` stands whose line is the
  first that does not fit. Run again from there without limit, it ends as the unlimited run did, and
  prints the text from the beginning of that line on.
-/
theorem run_cut_and_resumed (s : Session) (limit : Nat) :
    let whole := run (s.redirect none)
    let text := (finalSession whole).output.written
    let cut := run (s.redirect (some limit))
    (text.length ≤ limit →
      EndAlike cut whole ∧ (finalSession cut).output.written = text) ∧
    (limit < text.length →
      fault? cut = some .outputRefused ∧
      (finalSession cut).output.written = text.take limit ∧
      ∃ trail t reg, Path (s.redirect none).started trail t ∧ Overflows limit t reg ∧
        (finalSession cut).machine = t.machine ∧
        let resumed := run ((finalSession cut).redirect none)
        EndAlike resumed whole ∧
        text = t.output.written ++ (finalSession resumed).output.written) := by
  intro whole text cut
  obtain ⟨trail, t, hpath, hending, hroom, hout⟩ := run_unlimited (s.redirect none) rfl
  have htext : text = t.output.written := congrArg Sink.written hout
  have hwritten : t.output.written =
      (s.redirect none).started.machine.transcript (instructionsOf trail) := path_written hpath
  refine ⟨fun hfits => ?_, fun hover => ?_⟩
  · -- all of the path can be walked on the bounded stream
    rw [htext, hwritten] at hfits
    have hfits' := Sink.hasRoomFor_new_iff.2 hfits
    obtain ⟨halike, hcut⟩ :=
      run_again (u := s.redirect (some limit)) hpath hending hroom rfl hfits'
    refine ⟨halike, ?_⟩
    rw [htext, hwritten, hcut]
    exact Sink.written_of_hasRoomFor hfits'
  · rw [htext] at hover
    obtain ⟨first, second, u, reg, rfl, hfirst, hsecond, hoverflows, rest, hrest⟩ :=
      exists_overflow hpath rfl (Nat.zero_le _) hover
    obtain ⟨hfault, hmachine, hcut⟩ := cut_at_overflow hfirst hoverflows
    obtain ⟨halike, hresumed⟩ :=
      resume_at_overflow hsecond hending (path_running hfirst rfl) hroom hmachine
    refine ⟨hfault, ?_, first, u, reg, hfirst, hoverflows, hmachine, halike,
      htext.trans hresumed⟩
    -- the line that was cut goes past the limit, so what comes behind it plays no part
    have hlimit : limit ≤ (u.output.written ++ u.machine.printed (.print reg)).length := by
      rw [List.length_append]
      exact Nat.le_of_lt hoverflows.behind
    rw [htext, ← hrest, List.take_append_of_le_length hlimit]
    exact hcut

/-- A new machine that prints 255, doubles it and prints 254. -/
def twoValues : Session where
  machine :=
    { ofConfig {} with
      memory := (Memory.zero.load
        [130, 0, 255, 130, 1, 2, 71, 0, 162, 0, 1, 71, 0, 1]).toOption.getD .zero }

/-- A stream of six characters is full within the second number; the number is printed again. -/
theorem run_cut_and_resumed_twoValues :
    ∃ trail t reg, Path (twoValues.redirect none).started trail t ∧ Overflows 6 t reg ∧
      (finalSession (run (twoValues.redirect (some 6)))).output.written = "255\n25".toList ∧
      (finalSession (run (twoValues.redirect (some 6)))).machine = t.machine ∧
      EndAlike
        (run ((finalSession (run (twoValues.redirect (some 6)))).redirect none))
        (run (twoValues.redirect none)) := by
  have htext : (finalSession (run (twoValues.redirect none))).output.written =
      "255\n254\n".toList := by
    decide +kernel
  obtain ⟨-, hover⟩ := run_cut_and_resumed twoValues 6
  rw [htext] at hover
  obtain ⟨-, hwritten, trail, t, reg, hpath, hoverflows, hmachine, halike, -⟩ := hover (by decide)
  exact ⟨trail, t, reg, hpath, hoverflows, hwritten, hmachine, halike⟩

end Machine

end Ls8
