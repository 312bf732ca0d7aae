import Ls8.CommandLine.Command
import Ls8.Proofs.EarlierNotices
import Ls8.Proofs.TraceLines

/-!
# What decides a command

A command has its options, a program file, perhaps a configuration file, and a log setting. What it
writes to the output and how it ends is decided by three of these things alone: the program text, the
section `cpu` of the configuration, and whether a listing is asked for. Everything else shows in the
diagnostics: the log and the trace lines, and behind those of a run either the statistics or the dump and
the last words.

A configuration that cannot be used comes before a program that cannot be used. Once both can, the
command lists or runs; and a run prints and ends alike whatever was logged before it and whether it is
traced or not.

Main results:

* `run_of_settings_error`, `run_of_unreadable`, `run_of_tooLarge`, `run_of_loaded` — the four things
  that a command can come to before it lists or runs.
* `shown_lists`, `shown_runs` — all that is seen of a command that lists, and of one that runs.
* `run_decided` — output and exit code, from what decides them.
* `command_decided` — every command, and two commands for which the same decides.
-/

namespace Ls8

/-! ## Runs of a machine -/

namespace Machine

variable {s u : Session}

/-- A run from a machine shows the trace line of every session on its course, if the machine traces. -/
theorem run_traceLines_of_machine (m : Machine) :
    (finalSession (run { machine := m })).traceLines =
      if m.tracing then (course { machine := m }).map (·.machine.traceLine) else [] := by
  have htracing : ∀ t ∈ course { machine := m }, t.machine.tracing = m.tracing := by
    intro t ht
    have hattempt : t ∈ Operation.run.attempts { machine := m } := ht
    exact Operation.tracing_of_mem_attempts hattempt
  rw [run_traceLines, flatMap_traces_of_tracing htracing]
  rfl

/-- A run prints and ends alike wherever the machines differ in the switch for tracing alone. -/
theorem run_of_alike (h : Alike s u) :
    fault? (run s) = fault? (run u) ∧ (finalSession (run s)).output = (finalSession (run u)).output := by
  have hends := blind_run h
  generalize run s = r at hends ⊢
  generalize run u = r' at hends ⊢
  cases hends with
  | ok _ same => exact ⟨rfl, same.output⟩
  | error _ same => exact ⟨rfl, same.output⟩

end Machine

namespace Command

open Ls8.Machine

/-! ## Before the program is started -/

/-- What the configuration file says; without one, the defaults. -/
def settings (files : Files) (o : Options) : Except Failure Config :=
  match o.config with
  | none => .ok {}
  | some path => Config.ofFile files path

/-- The settings, with tracing on if a switch asks for it. -/
def switched (c : Config) (o : Options) : Config :=
  { c with general := { traceInstructions := c.general.traceInstructions || o.trace } }

/-- The machine of the settings with an image in memory. -/
def prepared (c : Config) (o : Options) (mem : Memory) : Machine :=
  { ofConfig (switched c o) with memory := mem }

/-- What is logged when a program file was loaded. -/
def loadEvents (p : Program) (path : String) : List Event :=
  p.fileEvents path ++ [.programLoaded p.image.length]

variable {files : Files} {o : Options} {c : Config} {p : Program} {mem : Memory}

theorem configOf_eq (files : Files) (o : Options) :
    configOf files o = (settings files o).map (switched · o) := by
  unfold configOf settings
  cases o.config with
  | none => rfl
  | some path => cases Config.ofFile files path <;> rfl

theorem loadFile_of_le {s : Session} (hp : Program.ofFile files o.program = .ok p)
    (hmem : s.machine.memory.load p.image = .ok mem) :
    loadFile files o.program s = .ok p.image.length
      { s with
        machine := { s.machine with memory := mem }
        notices := s.notices ++ (loadEvents p o.program).map .event } := by
  rw [loadFile, hp]
  -- the log of the file comes first, then that of the image
  simp only [Action.toTask_eq, bind, EStateM.bind, Action.logAll, load, Action.update, loadImage,
    hmem, Except.map, Action.notify, Session.note, pure, EStateM.pure, loadEvents, List.map_append,
    List.append_assoc]
  rfl

theorem loadFile_of_lt {s : Session} (hp : Program.ofFile files o.program = .ok p)
    (hlarge : Memory.size < p.image.length) :
    ∃ s', loadFile files o.program s =
      .error (.fault (.programTooLarge p.image.length Memory.size)) s' := by
  rw [loadFile, hp]
  simp only [Action.toTask_eq, bind, EStateM.bind, Action.logAll, load, Action.update, loadImage,
    Memory.load_of_lt hlarge, Except.map]
  exact ⟨_, rfl⟩

/-- A configuration that cannot be used ends the command, whatever the program is. -/
theorem run_of_settings_error {f : Failure} (hc : settings files o = .error f) :
    run files o = .ofFailure f [] := by
  rw [run, configOf_eq, hc]
  rfl

theorem run_of_unreadable {f : Failure} (hc : settings files o = .ok c)
    (hp : Program.ofFile files o.program = .error f) : run files o = .ofFailure f [] := by
  rw [run, configOf_eq, hc]
  simp only [Except.map, loadFile, hp]

theorem run_of_tooLarge (hc : settings files o = .ok c)
    (hp : Program.ofFile files o.program = .ok p) (hlarge : Memory.size < p.image.length) :
    ∃ f notices, run files o = .ofFailure f notices := by
  obtain ⟨s', hload⟩ := loadFile_of_lt (s := { machine := ofConfig (switched c o) }) hp hlarge
  refine ⟨.fault (.programTooLarge p.image.length Memory.size), s'.notices, ?_⟩
  rw [run, configOf_eq, hc]
  simp only [Except.map, hload]

theorem run_of_loaded (hc : settings files o = .ok c)
    (hp : Program.ofFile files o.program = .ok p) (hmem : Memory.zero.load p.image = .ok mem) :
    run files o = start o
      { machine := prepared c o mem, notices := (loadEvents p o.program).map .event }
      p.image.length := by
  have hload := loadFile_of_le (s := { machine := ofConfig (switched c o) }) hp hmem
  rw [run, configOf_eq, hc]
  simp only [Except.map, hload]
  rfl

/-! ## What is seen -/

/-- The command failed before anything came out of it. -/
def Shown.Silent (w : Shown) : Prop := w.exitCode = 1 ∧ w.output = ""

/-- The command listed the first bytes of a memory. It did nothing else: the diagnostics have what the
filter shows of the given log, and no trace line. -/
structure Shown.Lists (w : Shown) (filter : LogFilter) (log : List Event) (mem : Memory)
    (bytes : Nat) : Prop where
  exitCode    : w.exitCode = 0
  output      : w.output = String.join ((mem.listing bytes).map fun l => l.text ++ "\n")
  diagnostics : w.diagnostics = String.join (log.map fun e => noticeText filter (.event e))

/-- What the filter shows of a log, and behind it of what was noticed. -/
def noticesText (filter : LogFilter) (log : List Event) (notices : List Notice) : String :=
  String.join ((log.map Notice.event ++ notices).map (noticeText filter))

/-- The command ran a machine behind the given log. The diagnostics begin with what the filter shows of
that log and of what the run noticed; the trace lines in it are those of the machine before each step, if
it traces. Behind a run that succeeded stand the statistics if they are asked for. Behind one that failed
stand the dump of the machine at the fault and the last words, and no statistics, asked for or not. -/
structure Shown.Runs (w : Shown) (filter : LogFilter) (log : List Event) (stats : Bool)
    (m : Machine) : Prop where
  output  : w.output = String.ofList (finalSession (Machine.run { machine := m })).output.written
  traces  : (finalSession (Machine.run { machine := m })).traceLines =
    if m.tracing then (course { machine := m }).map (·.machine.traceLine) else []
  success : ∀ s', Machine.run { machine := m } = .ok () s' → w.exitCode = 0 ∧
    w.diagnostics = noticesText filter log s'.notices ++
      if stats then s'.machine.statistics.report ++ "\n" else ""
  failure : ∀ f s', Machine.run { machine := m } = .error f s' → w.exitCode = 1 ∧
    w.diagnostics = noticesText filter log s'.notices ++
      (s'.machine.dump ++ "\n" ++ ("\n[!] FATAL: " ++ f.message ++ "\n"))

theorem shown_silent_of (setting : Option String) {f : Failure} {notices : List Notice}
    (h : run files o = .ofFailure f notices) : (shown files o setting).Silent := by
  rw [shown, h]
  exact ⟨rfl, rfl⟩

theorem shown_lists (setting : Option String) (hc : settings files o = .ok c)
    (hp : Program.ofFile files o.program = .ok p) (hmem : Memory.zero.load p.image = .ok mem)
    (hdisasm : o.disasm = true) :
    (shown files o setting).Lists (.ofSetting setting o.trace) (loadEvents p o.program) mem
      p.image.length := by
  have hrun := run_of_loaded hc hp hmem
  simp only [start, hdisasm, if_true] at hrun
  refine ⟨?_, ?_, ?_⟩
  · rw [shown, hrun]
  · rw [shown, hrun]
    rfl
  · rw [shown, hrun]
    simp only [Result.diagnostics, List.map_map, String.append_empty]
    rfl

theorem shown_runs (setting : Option String) (hc : settings files o = .ok c)
    (hp : Program.ofFile files o.program = .ok p) (hmem : Memory.zero.load p.image = .ok mem)
    (hdisasm : o.disasm = false) :
    (shown files o setting).Runs (.ofSetting setting o.trace) (loadEvents p o.program) o.stats
      (prepared c o mem) := by
  have hrun := run_of_loaded hc hp hmem
  simp only [start, hdisasm, Bool.false_eq_true, if_false] at hrun
  -- the run behind the log of the file is the run without it, with that log in front
  rw [run_behind] at hrun
  refine ⟨?_, run_traceLines_of_machine _, ?_, ?_⟩
  · rw [shown, hrun]
    cases Machine.run { machine := prepared c o mem } <;> rfl
  · intro s' hs
    rw [shown, hrun, hs]
    exact ⟨rfl, rfl⟩
  · intro f s' hs
    rw [shown, hrun, hs]
    exact ⟨rfl, rfl⟩

/-! ## What decides -/

/-- Output and exit code of a command whose program is in memory. -/
def decidedOf (p : Program) (mem : Memory) (cpu : Config.Cpu) (disasm : Bool) : String × Nat :=
  if disasm then
    (String.join ((mem.listing p.image.length).map fun l => l.text ++ "\n"), 0)
  else
    let r := Machine.run { machine := { ofConfig { cpu } with memory := mem } }
    (String.ofList (finalSession r).output.written, if fault? r = none then 0 else 1)

/-- Output and exit code, from what decides them: the program text and the settings of the processor, if
they could be read, and whether a listing is asked for. -/
def decided (text : Option String) (cpu : Option Config.Cpu) (disasm : Bool) : String × Nat :=
  match cpu, text with
  | some cpu, some text =>
    match Memory.zero.load (Program.parse text).image with
    | .error _ => ("", 1)
    | .ok mem => decidedOf (Program.parse text) mem cpu disasm
  | _, _ => ("", 1)

/-- The program text and the settings of the processor, if they can be read, and the switch for a
listing are those of another command. -/
structure SameDecision (files : Files) (o : Options) (files' : Files) (o' : Options) : Prop where
  text   : (files'.readText o'.program).toOption = (files.readText o.program).toOption
  cpu    : (settings files' o').toOption.map Config.cpu = (settings files o).toOption.map Config.cpu
  disasm : o'.disasm = o.disasm

theorem ofFile_of_readText {text : String} (h : files.readText o.program = .ok text) :
    Program.ofFile files o.program = .ok (Program.parse text) := by
  rw [Program.ofFile, h]
  rfl

theorem ofFile_of_error {e : ReadError} (h : files.readText o.program = .error e) :
    Program.ofFile files o.program = .error (.unreadable o.program e) := by
  rw [Program.ofFile, h]
  rfl

theorem Shown.Runs.exitCode_eq {w : Shown} {filter : LogFilter} {log : List Event} {stats : Bool}
    {m : Machine} (h : w.Runs filter log stats m) :
    w.exitCode = if fault? (Machine.run { machine := m }) = none then 0 else 1 := by
  cases hr : Machine.run { machine := m } with
  | ok _ s' => exact (h.success s' hr).1
  | error f s' => exact (h.failure f s' hr).1

/-- A command that can list or run, and what decides its output and exit code. -/
theorem decided_of_loaded (setting : Option String) (hc : settings files o = .ok c)
    (hp : Program.ofFile files o.program = .ok p) (hmem : Memory.zero.load p.image = .ok mem) :
    ((shown files o setting).output, (shown files o setting).exitCode) =
      decidedOf p mem c.cpu o.disasm := by
  cases hdisasm : o.disasm with
  | true =>
    have h := shown_lists setting hc hp hmem hdisasm
    rw [h.output, h.exitCode]
    rfl
  | false =>
    have h := shown_runs setting hc hp hmem hdisasm
    -- the switch for tracing is all that the section `cpu` does not decide
    obtain ⟨hfault, hout⟩ := run_of_alike (s := { machine := prepared c o mem })
      (u := { machine := { ofConfig { cpu := c.cpu } with memory := mem } }) ⟨rfl, rfl, rfl⟩
    rw [h.output, h.exitCode_eq, hfault, hout]
    rfl

theorem run_decided (files : Files) (o : Options) (setting : Option String) :
    ((shown files o setting).output, (shown files o setting).exitCode) =
      decided (files.readText o.program).toOption ((settings files o).toOption.map Config.cpu)
        o.disasm := by
  cases hc : settings files o with
  | error f =>
    have h := shown_silent_of setting (run_of_settings_error hc)
    rw [h.1, h.2]
    rfl
  | ok c =>
    cases ht : files.readText o.program with
    | error e =>
      have h := shown_silent_of setting (run_of_unreadable hc (ofFile_of_error ht))
      rw [h.1, h.2]
      rfl
    | ok text =>
      have hp := ofFile_of_readText ht
      show _ = decided (some text) (some c.cpu) o.disasm
      by_cases hfits : (Program.parse text).image.length ≤ Memory.size
      · have hmem := Memory.load_of_le (m := .zero) hfits
        rw [decided_of_loaded setting hc hp hmem, decided, hmem]
      · have hlarge := Nat.lt_of_not_le hfits
        obtain ⟨f, notices, h⟩ := run_of_tooLarge hc hp hlarge
        rw [(shown_silent_of setting h).1, (shown_silent_of setting h).2, decided, Memory.load_of_lt hlarge]

/-- What a command shows. If its configuration cannot be used nothing comes out of it, whatever the
program file is; nor if the program cannot be used. Else it lists or runs the program; and what stands in
the diagnostics is said in full, up to the statistics of a run that succeeded and the dump of one that
failed. Two commands with the same program text and settings of the processor print the same and end with
the same code if both list or none does, however they trace, report and log. -/
theorem command_decided (files : Files) (o : Options) (setting : Option String) :
    (∀ f, settings files o = .error f → (shown files o setting).Silent) ∧
    (∀ c, settings files o = .ok c →
      (∀ f, Program.ofFile files o.program = .error f → (shown files o setting).Silent) ∧
      ∀ p, Program.ofFile files o.program = .ok p →
        (Memory.size < p.image.length → (shown files o setting).Silent) ∧
        (p.image.length ≤ Memory.size → ∃ mem, Memory.zero.load p.image = .ok mem ∧
          (o.disasm = true → (shown files o setting).Lists (.ofSetting setting o.trace)
            (loadEvents p o.program) mem p.image.length) ∧
          (o.disasm = false → (shown files o setting).Runs (.ofSetting setting o.trace)
            (loadEvents p o.program) o.stats (prepared c o mem)))) ∧
    ∀ files' o' setting', SameDecision files o files' o' →
      (shown files' o' setting').output = (shown files o setting).output ∧
      (shown files' o' setting').exitCode = (shown files o setting).exitCode := by
  refine ⟨?_, ?_, ?_⟩
  · intro f hc
    exact shown_silent_of setting (run_of_settings_error hc)
  · intro c hc
    refine ⟨fun f hp => shown_silent_of setting (run_of_unreadable hc hp), fun p hp => ⟨?_, ?_⟩⟩
    · intro hlarge
      obtain ⟨f, notices, h⟩ := run_of_tooLarge hc hp hlarge
      exact shown_silent_of setting h
    · intro hfits
      have hmem := Memory.load_of_le (m := .zero) hfits
      exact ⟨_, hmem, shown_lists setting hc hp hmem, shown_runs setting hc hp hmem⟩
  · intro files' o' setting' same
    have hfirst := run_decided files o setting
    have hsecond := run_decided files' o' setting'
    -- the second command is decided by the same three things
    rw [same.text, same.cpu, same.disasm, ← hfirst] at hsecond
    exact ⟨congrArg Prod.fst hsecond, congrArg Prod.snd hsecond⟩

/-- Two files: a program that prints a register and goes on to a byte that is no instruction, and a
configuration that asks for tracing. -/
def printingFiles : Files
  | "print.ls8" => .ok "01000111\n00000000 # R0\n\n11111111\n".toUTF8
  | "trace.json" => .ok "\x7b\"general\": \x7b\"trace_instructions\": true\x7d\x7d".toUTF8
  | _ => .error .missing

/-- The statistics are asked for and not shown, since the run fails. -/
theorem command_decided_printing :
    let counted : Options := { program := "print.ls8", stats := true }
    let traced : Options := { program := "print.ls8", config := some "trace.json" }
    let misnamed : Options := { program := "print.ls8", config := some "trace.jsn" }
    (shown printingFiles misnamed none).Silent ∧
    (∃ mem s', Memory.zero.load [0x47, 0, 0xFF] = .ok mem ∧
      Machine.run { machine := prepared {} counted mem } = .error (.unknownOpcode 0xFF 2) s' ∧
      (shown printingFiles counted none).exitCode = 1 ∧
      (shown printingFiles counted none).diagnostics =
        noticesText (.ofSetting none false) (loadEvents ⟨[0x47, 0, 0xFF], []⟩ "print.ls8") s'.notices ++
          (s'.machine.dump ++ "\n" ++
            ("\n[!] FATAL: " ++ (Fault.unknownOpcode 0xFF 2).message ++ "\n"))) ∧
    (shown printingFiles traced (some "trace")).output = (shown printingFiles counted none).output ∧
    (shown printingFiles traced (some "trace")).exitCode =
      (shown printingFiles counted none).exitCode := by
  intro counted traced misnamed
  refine ⟨?_, ?_, ?_⟩
  · exact (command_decided printingFiles misnamed none).1 (.unreadable "trace.jsn" .missing) rfl
  · obtain ⟨-, hloaded⟩ := (command_decided printingFiles counted none).2.1 {} rfl
    obtain ⟨mem, hmem, -, hruns⟩ := (hloaded ⟨[0x47, 0, 0xFF], []⟩ rfl).2 (by decide)
    -- the byte behind the `PRN` is no instruction
    have hfault : fault? (Machine.run { machine := prepared {} counted mem }) =
        some (.unknownOpcode 0xFF 2) := by
      have hcells : mem = (Memory.zero.load [0x47, 0, 0xFF]).toOption.getD .zero := by rw [hmem]; rfl
      rw [hcells]
      decide +kernel
    cases hr : Machine.run { machine := prepared {} counted mem } with
    | ok _ s' =>
      rw [hr] at hfault
      cases hfault
    | error f s' =>
      rw [hr] at hfault
      obtain rfl := Option.some.inj hfault
      obtain ⟨hcode, hdiagnostics⟩ := (hruns rfl).failure _ s' hr
      exact ⟨mem, s', hmem, hr, hcode, hdiagnostics⟩
  · refine (command_decided printingFiles counted none).2.2 printingFiles traced (some "trace")
      ⟨rfl, ?_, rfl⟩
    decide +kernel

end Command

end Ls8
