import Ls8.Proofs.Counters
import Ls8.Proofs.Course
import Ls8.Proofs.ProgramText
import Ls8.Proofs.Resumption

/-!
# The account of a run

A run reports on itself in three ways: the log, the counters and the printed text. They are written
at different points of a step, the log entry before the instruction is executed, the text while it
is, the counters behind it. So they do not agree in number when the last instruction fails, and it is
said here by how much.

Main results:

* `events_run` — the log has the decoded instructions, and the halt if there was one.
* `exists_written_run` — the text has the lines of the retired `PRN`s, and perhaps a part of one more.
* `run_account` — log, counters and text of a run.
-/

namespace Ls8

namespace Sink

variable {k : Sink} {text : List Char}

theorem accepts_prefix (k : Sink) (text : List Char) : k.accepts text <+: text := by
  unfold accepts
  cases k.room with
  | none => exact List.prefix_refl _
  | some n => exact List.take_prefix n text

/-- A text for which there is no room is not taken as a whole. -/
theorem accepts_ne (h : k.hasRoomFor text = false) : k.accepts text ≠ text := by
  unfold hasRoomFor at h
  unfold accepts
  cases hr : k.room with
  | none =>
    rw [hr] at h
    cases h
  | some n =>
    simp only [hr, decide_eq_false_iff_not, Nat.not_le] at h
    intro htaken
    have hlength := congrArg List.length htaken
    rw [List.length_take] at hlength
    omega

end Sink

/-- The entry for a decoded instruction. -/
def decodedEntry (d : Nat × Instruction) : Level × String × List (String × Event.Value) :=
  (.trace, d.2.text, [("pc", .number d.1)])

/-- The entry for a halt, with so many instructions retired in all. -/
def haltedEntry (retired : Nat) : Level × String × List (String × Event.Value) :=
  (.info, "halted", [("instructions", .number retired)])

namespace Machine

open Ls8.Action

/-! ## Line feeds -/

/-- A printed line ends with its only line feed. -/
theorem feed_notMem_digits (n : Nat) : '\n' ∉ (toString n).toList := by
  intro h
  have hdigit : '\n' ∈ Nat.toDigits 10 n := by
    rw [← Nat.toList_repr]
    exact h
  have := Nat.isDigit_of_mem_toDigits (by omega) (by omega) hdigit
  cases this

theorem count_feed_printed (m : Machine) (inst : Instruction) :
    (m.printed inst).count '\n' = if inst.opcode = .prn then 1 else 0 := by
  cases inst with
  | print reg =>
    show (printedLine _).count '\n' = 1
    rw [printedLine, List.count_append, List.count_eq_zero.2 (feed_notMem_digits _)]
    rfl
  | _ => rfl

theorem count_feed_flatMap_printed (m : Machine) (insts : List Instruction) :
    (insts.flatMap m.printed).count '\n' = insts.countP fun inst => inst.opcode = .prn := by
  induction insts with
  | nil => rfl
  | cons inst insts ih =>
    rw [List.flatMap_cons, List.count_append, ih, count_feed_printed, List.countP_cons]
    simp only [decide_eq_true_eq]
    omega

theorem count_feed_printedIn (s : Session) :
    (printedIn s).count '\n' = (retiredIn s).countP fun inst => inst.opcode = .prn := by
  unfold printedIn retiredIn
  -- session by session, as both lists are made
  induction course s with
  | nil => rfl
  | cons t past ih =>
    rw [List.flatMap_cons, List.flatMap_cons, List.count_append, List.countP_append, ih,
      Session.printing, count_feed_flatMap_printed]

/-- A part of a printed line that is not all of it has no line feed. -/
theorem feed_notMem_of_prefix {cut : List Char} {v : UInt8} (h : cut <+: printedLine v)
    (hne : cut ≠ printedLine v) : '\n' ∉ cut := by
  rcases List.prefix_concat_iff.1 h with heq | hdigits
  · exact absurd heq hne
  · exact fun hmem => feed_notMem_digits _ (hdigits.subset hmem)

/-! ## The log -/

variable {s t : Session} {r : Outcome}

theorem ending_events (h : Ending t r) :
    (finalSession r).events =
      t.events ++ t.fetched.map (fun d => .decoded d.1 d.2) ++
        if fault? r = none then [.halted (finalSession r).machine.statistics.retired] else [] := by
  cases h with
  | undecoded hd =>
    rw [Session.fetched_of_decode_error hd, List.map_nil, List.append_nil]
    exact t.traced_events.trans (List.append_nil _).symm
  | @stray inst reg hd hreg =>
    rw [Session.fetched_of_decode hd]
    exact (t.announce_events inst).trans (List.append_nil _).symm
  | @refused inst hd hnamed hfull =>
    rw [Session.fetched_of_decode hd]
    exact (t.announce_events inst).trans (List.append_nil _).symm
  | halted hd =>
    rw [Session.fetched_of_decode hd, List.map_singleton, ← t.retire_events .halt]
    exact Session.events_note_event _ _

theorem events_run (s : Session) :
    (finalSession (run s)).events =
      s.events ++ (decodedIn s).map (fun d => .decoded d.1 d.2) ++
        if fault? (run s) = none then
          [.halted (finalSession (run s)).machine.statistics.retired] else [] := by
  obtain ⟨past, t, trail, hpath, hending, -, hdecoded, -⟩ := exists_course s
  rw [ending_events hending, path_events hpath, hdecoded, List.map_append, ← List.append_assoc]
  rfl

/-! ## The counters -/

/-- How many decoded instructions of a run were not retired, by the way in which it ended. -/
def unretired : Option Fault → Nat
  | some (.invalidRegister _) | some .outputRefused => 1
  | _ => 0

theorem unretired_of_decode {m : Memory} {pc : Nat} {f : Fault} (h : m.decode pc = .error f) :
    unretired (some f) = 0 := by
  rcases Memory.decode_eq_error_iff.1 h with ⟨b, -, rfl⟩ | ⟨-, rfl⟩
  · rfl
  · rfl

theorem length_fetched_of_ending (h : Ending t r) (hrun : t.machine.state = .running) :
    t.fetched.length = t.retiring.length + unretired (fault? r) := by
  rw [retiring_of_ending h hrun]
  cases h with
  | undecoded hd =>
    rw [Session.fetched_of_decode_error hd]
    show 0 = 0 + unretired (some _)
    rw [unretired_of_decode hd]
  | stray hd hreg =>
    rw [Session.fetched_of_decode hd]
    rfl
  | refused hd hnamed hfull =>
    rw [Session.fetched_of_decode hd]
    rfl
  | halted hd =>
    rw [Session.fetched_of_decode hd]
    rfl

theorem length_decodedIn (s : Session) :
    (decodedIn s).length = (retiredIn s).length + unretired (fault? (run s)) := by
  obtain ⟨past, t, trail, hpath, hending, -, hdecoded, hretired, -⟩ := exists_course s
  have hlast := length_fetched_of_ending hending (path_running hpath rfl)
  rw [hdecoded, hretired, List.length_append, List.length_append, List.length_map, hlast]
  omega

/-! ## The text -/

/-- A beginning, but not all, of the line of the `PRN` at which a run ended. -/
def Unfinished (s : Session) (cut : List Char) : Prop :=
  ∃ t reg v, (course s).getLast? = some t ∧
    t.machine.memory.decode t.machine.pc = .ok (.print reg) ∧
    t.machine.registers.read reg = .ok v ∧ cut <+: printedLine v ∧ cut ≠ printedLine v

/-- Only the line of a `PRN` can be refused. -/
theorem exists_print_of_refused (h : Ending t r) (hfault : fault? r = some .outputRefused) :
    ∃ reg, t.machine.memory.decode t.machine.pc = .ok (.print reg) ∧
      reg.toNat < Registers.count ∧ t.output.hasRoomFor (t.machine.printed (.print reg)) = false ∧
      (finalSession r).output = t.output.write (t.machine.printed (.print reg)) := by
  cases h with
  | undecoded hd =>
    -- a stream is not asked for before something was decoded
    have hcounted := unretired_of_decode hd
    rw [Option.some.inj hfault] at hcounted
    cases hcounted
  | stray hd hreg => cases hfault
  | halted hd => cases hfault
  | @refused inst hd hnamed hfull =>
    obtain ⟨reg, rfl⟩ := exists_print_of_full hfull
    exact ⟨reg, hd, hnamed.single rfl, hfull, t.announce_refuse_output _⟩

theorem output_of_ending (h : Ending t r) (hfault : fault? r ≠ some .outputRefused) :
    (finalSession r).output = t.output := by
  cases h with
  | undecoded hd => exact t.traced_output
  | @stray inst reg hd hreg => exact t.announce_output inst
  | halted hd => exact t.output.write_nil
  | refused hd hnamed hfull => exact absurd rfl hfault

/-- A run prints the lines of the `PRN`s that it retires, and behind them at most a part of the line
that was refused. -/
theorem exists_written_run (s : Session) :
    ∃ cut, (finalSession (run s)).output.written = s.output.written ++ printedIn s ++ cut ∧
      (fault? (run s) = some .outputRefused → Unfinished s cut) ∧
      (fault? (run s) ≠ some .outputRefused → cut = []) := by
  obtain ⟨past, t, trail, hpath, hending, hcourse, -, -, hprinted⟩ := exists_course s
  have hwritten : t.output.written = s.output.written ++ printedIn s := by
    rw [path_written hpath, hprinted]
    rfl
  by_cases hfault : fault? (run s) = some .outputRefused
  · obtain ⟨reg, hd, hreg, hfull, hout⟩ := exists_print_of_refused hending hfault
    refine ⟨t.output.accepts (t.machine.printed (.print reg)), ?_, fun _ => ?_,
      fun hother => absurd hfault hother⟩
    · rw [hout, Sink.write_written, hwritten]
    · refine ⟨t, reg, _, ?_, hd, Registers.read_eq_value hreg, Sink.accepts_prefix _ _,
        Sink.accepts_ne hfull⟩
      rw [hcourse, List.getLast?_concat]
  · refine ⟨[], ?_, fun hrefused => absurd hrefused hfault, fun _ => rfl⟩
    rw [output_of_ending hending hfault, hwritten, List.append_nil]

theorem written_of_unlimited (s : Session) (hroom : s.output.room = none) :
    (finalSession (run s)).output.written = s.output.written ++ printedIn s := by
  obtain ⟨past, t, trail, hpath, hending, -, -, -, hprinted⟩ := exists_course s
  have hroom' : t.output.room = none := by
    rw [path_output hpath]
    exact Sink.room_write_of_none hroom _
  -- nothing is refused on a stream without limit
  have hfault : fault? (run s) ≠ some .outputRefused := by
    intro hrefused
    obtain ⟨reg, -, -, hfull, -⟩ := exists_print_of_refused hending hrefused
    rw [Sink.hasRoomFor_of_none hroom'] at hfull
    cases hfull
  rw [output_of_ending hending hfault, path_written hpath, hprinted]
  rfl

/--
**The account of a run.** A run logs the instructions that it decodes, each at trace level with its
address and its assembler text, and behind them, exactly if it succeeds, that it halted, with the
number of instructions retired by then. It counts the instructions that it retires, all in all and
each kind for itself; these are as many as were decoded, or one less exactly if an operand or the
stream was at fault.

It prints the lines of the `PRN`s that it retires, each with the register as it was then, and if a
line was refused a beginning of that line, and nothing else. The values that it counts as printed are
as many as it wrote line feeds.
-/
theorem run_account (s : Session) :
    let final := finalSession (run s)
    final.events.map Event.entry =
      s.events.map Event.entry ++ (decodedIn s).map decodedEntry ++
        (if fault? (run s) = none then [haltedEntry final.machine.statistics.retired] else []) ∧
    final.machine.statistics.retired + unretired (fault? (run s)) =
      s.machine.statistics.retired + (decodedIn s).length ∧
    (∀ op, final.machine.statistics.counter op =
      s.machine.statistics.counter op + (retiredIn s).countP fun inst => inst.opcode = op) ∧
    ∃ cut, final.output.written = s.output.written ++ printedIn s ++ cut ∧
      (fault? (run s) = some .outputRefused → Unfinished s cut) ∧
      (fault? (run s) ≠ some .outputRefused → cut = []) ∧
      final.machine.statistics.printed =
        s.machine.statistics.printed + (printedIn s ++ cut).count '\n' := by
  intro final
  have hstatistics : final.machine.statistics =
      (retiredIn s).foldl Statistics.record s.machine.statistics := statistics_run s
  refine ⟨?_, ?_, ?_, ?_⟩
  · rw [events_run s]
    simp only [List.map_append, List.map_map]
    congr 1
    split <;> rfl
  · rw [hstatistics, foldl_record_retired, length_decodedIn]
    omega
  · intro op
    rw [hstatistics, Statistics.foldl_record_counter]
  · obtain ⟨cut, hwritten, hrefused, hother⟩ := exists_written_run s
    refine ⟨cut, hwritten, hrefused, hother, ?_⟩
    -- what was cut off has no line feed, and the other line feeds are those of the retired `PRN`s
    have hcut : cut.count '\n' = 0 := by
      rw [List.count_eq_zero]
      by_cases hfault : fault? (run s) = some .outputRefused
      · obtain ⟨_, _, v, -, -, -, hprefix, hne⟩ := hrefused hfault
        exact feed_notMem_of_prefix hprefix hne
      · rw [hother hfault]
        exact List.not_mem_nil
    have hprints := Statistics.foldl_record_counter s.machine.statistics (retiredIn s) .prn
    have hprinted := Statistics.foldl_record_printed s.machine.statistics (retiredIn s)
    rw [← hstatistics] at hprints hprinted
    rw [List.count_append, hcut, count_feed_printedIn]
    simp only [Statistics.counter] at hprints
    omega

/-- On a stream of six characters the second number is cut: five instructions are decoded, and the
last of them is neither counted nor printed as a whole. -/
theorem run_account_twoValues :
    fault? (run (twoValues.redirect (some 6))) = some .outputRefused ∧
    (decodedIn (twoValues.redirect (some 6))).length = 5 ∧
    (finalSession (run (twoValues.redirect (some 6)))).machine.statistics.retired = 4 ∧
    printedIn (twoValues.redirect (some 6)) = "255\n".toList ∧
    ∃ cut, (finalSession (run (twoValues.redirect (some 6)))).output.written = "255\n".toList ++ cut ∧
      Unfinished (twoValues.redirect (some 6)) cut := by
  obtain ⟨-, hretired, -, cut, hwritten, hrefused, -, -⟩ := run_account (twoValues.redirect (some 6))
  have hfault : fault? (run (twoValues.redirect (some 6))) = some .outputRefused := by
    decide +kernel
  have hdecoded : (decodedIn (twoValues.redirect (some 6))).length = 5 := by
    decide +kernel
  have hprinted : printedIn (twoValues.redirect (some 6)) = "255\n".toList := by
    decide +kernel
  rw [hfault, hdecoded] at hretired
  rw [hprinted] at hwritten
  exact ⟨hfault, hdecoded, Nat.succ.inj hretired, hprinted, cut, hwritten, hrefused hfault⟩

end Machine

end Ls8
