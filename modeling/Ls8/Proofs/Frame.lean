import Ls8.Machine.Operation
import Ls8.Proofs.Step

/-!
# What actions leave alone

An action is made of a few parts: it looks at the machine, changes it, writes, or adds to the
notices. A view of the machine that no part of an action changes is the same before and behind the
action, wherever the action ends; the parts that do not change the machine at all leave every view.

Main results:

* `Leaves.bind`, `Keeps.bind`, `Keeps.change`, `Keeps.update` — a frame from the frames of the parts.
* `keeps_execute`, `keeps_alu`, `keeps_load`, `keeps_loadText`, `keeps_loadFile`, `keeps_step`,
  `keeps_run` — a frame from the few changes that these make.
* `keeps_perform` — what none of the plain operations touches.
* `keeps_settled` — what no operation touches but those that set a switch.
-/

namespace Ls8

variable {ε α β γ : Type}

/-- The session in which an action ends, with a result or without one. -/
def Session.after (s : Session) (x : EStateM ε Session α) : Session :=
  match x s with
  | .ok _ s' => s'
  | .error _ s' => s'

/-- However the action ends, the view of the session is the one of before. -/
def Leaves (view : Session → γ) (x : EStateM ε Session α) : Prop :=
  ∀ s : Session, view (s.after x) = view s

/-- However the action ends, the view of the machine is the one of before. -/
def Keeps (view : Machine → γ) (x : EStateM ε Session α) : Prop :=
  ∀ s : Session, view (s.after x).machine = view s.machine

namespace Session

variable {s t : Session} {x : EStateM ε Session α}

theorem after_of_ok {a : α} (h : x s = .ok a t) : s.after x = t := by
  rw [after, h]

theorem after_of_error {e : ε} (h : x s = .error e t) : s.after x = t := by
  rw [after, h]

theorem after_map (g : α → β) (x : EStateM ε Session α) (s : Session) :
    s.after (g <$> x) = s.after x := by
  simp only [after, Functor.map, EStateM.map]
  cases x s <;> rfl

theorem after_toTask (x : Action α) (s : Session) : s.after x.toTask = s.after x := by
  rw [after, Action.toTask_eq, after]
  cases x s <;> rfl

theorem after_quietly (x : Action Unit) (s : Session) : s.after x.quietly = s.after x :=
  (after_map _ _ s).trans (after_toTask x s)

theorem after_answering (answer : α → Answer) (x : Action α) (s : Session) :
    s.after (x.answering answer) = s.after x :=
  (after_map answer _ s).trans (after_toTask x s)

end Session

/-! ## Parts and their composition -/

namespace Leaves

variable {view : Session → γ}

theorem bind {x : EStateM ε Session α} {f : α → EStateM ε Session β} (hx : Leaves view x)
    (hf : ∀ a, Leaves view (f a)) : Leaves view (x >>= f) := by
  intro s
  have hfirst := hx s
  simp only [Session.after, Bind.bind, EStateM.bind] at hfirst ⊢
  cases hres : x s with
  | ok a t =>
    rw [hres] at hfirst
    exact (hf a t).trans hfirst
  | error e t =>
    -- the second part is not reached
    rw [hres] at hfirst
    exact hfirst

theorem map (g : α → β) {x : EStateM ε Session α} (h : Leaves view x) : Leaves view (g <$> x) :=
  fun s => (congrArg view (Session.after_map g x s)).trans (h s)

theorem toTask {x : Action α} (h : Leaves view x) : Leaves view x.toTask :=
  fun s => (congrArg view (Session.after_toTask x s)).trans (h s)

end Leaves

variable {view : Machine → γ}

namespace Keeps

theorem pure (a : α) : Keeps view (Pure.pure a : EStateM ε Session α) := fun _ => rfl

theorem bind {x : EStateM ε Session α} {f : α → EStateM ε Session β} (hx : Keeps view x)
    (hf : ∀ a, Keeps view (f a)) : Keeps view (x >>= f) :=
  show Leaves (view ·.machine) (x >>= f) from .bind hx hf

theorem map (g : α → β) {x : EStateM ε Session α} (h : Keeps view x) : Keeps view (g <$> x) :=
  show Leaves (view ·.machine) (g <$> x) from .map g h

theorem toTask {x : Action α} (h : Keeps view x) : Keeps view x.toTask :=
  show Leaves (view ·.machine) x.toTask from .toTask h

theorem quietly {x : Action Unit} (h : Keeps view x) : Keeps view x.quietly := h.toTask.map _

theorem answering (answer : α → Answer) {x : Action α} (h : Keeps view x) :
    Keeps view (x.answering answer) :=
  h.toTask.map _

theorem ask (f : Machine → α) : Keeps view (Action.ask f) := fun _ => rfl

theorem attempt (f : Machine → Except Fault α) : Keeps view (Action.attempt f) := by
  intro s
  unfold Session.after Action.attempt
  cases f s.machine <;> rfl

theorem notify (n : Notice) : Keeps view (Action.notify n) := fun _ => rfl

theorem logAll (events : List Event) : Keeps view (Action.logAll events) := fun _ => rfl

theorem change {f : Machine → Machine} (h : ∀ m, view (f m) = view m) :
    Keeps view (Action.change f) :=
  fun s => h s.machine

/-- A part of the machine is changed, if that can be done, and put back. -/
theorem update {δ : Type} {part : Machine → Except Fault δ} {put : Machine → δ → Machine}
    (h : ∀ m d, view (put m d) = view m) :
    Keeps view (Action.update fun m => (part m).map (put m)) := by
  intro s
  simp only [Session.after, Action.update]
  cases part s.machine with
  | ok d => exact h s.machine d
  | error f => rfl

end Keeps

namespace Machine

/-! ## Compound actions -/

/-- An instruction that succeeds changes the machine by its effect, and one that fails does not. -/
theorem keeps_execute {inst : Instruction} (h : ∀ m : Machine, view (m.effect inst) = view m) :
    Keeps view (execute inst) := by
  intro s
  cases hres : execute inst s with
  | ok u t =>
    obtain ⟨-, -, rfl⟩ := execute_eq_ok_iff.1 hres
    rw [Session.after_of_ok hres]
    exact h s.machine
  | error f t =>
    rw [Session.after_of_error hres]
    rcases execute_eq_error_iff.1 hres with ⟨_, -, -, rfl⟩ | ⟨-, -, -, rfl⟩
    · rfl
    · rfl

theorem keeps_step (heffect : ∀ (inst : Instruction) m, view (m.effect inst) = view m)
    (hretire : ∀ (inst : Instruction) m, view (m.retire inst) = view m) : Keeps view step := by
  have htrace : Keeps view traceState := by
    intro s
    rw [Session.after_of_ok (traceState_eq s), s.traced_machine]
  refine htrace.bind fun _ => (Keeps.attempt _).bind fun inst => ?_
  refine (Keeps.ask _).bind fun pc => (Keeps.notify _).bind fun _ => ?_
  refine (keeps_execute (heffect inst)).bind fun _ => ?_
  exact (Keeps.change (hretire inst)).bind fun _ => Keeps.ask _

/-- A run is made of steps, and of its beginning. -/
theorem keeps_run (h : Keeps view step)
    (hstate : ∀ (m : Machine) r, view { m with state := r } = view m) : Keeps view run := by
  have hrounds : Keeps view (runOn : Action Unit) := by
    intro s
    unfold Session.after
    -- round by round
    fun_induction runOn s with
    | case1 s f s' hs =>
      have hstep := h s
      rw [Session.after_of_error hs] at hstep
      exact hstep
    | case2 s s' hs =>
      have hstep := h s
      rw [Session.after_of_ok hs] at hstep
      exact hstep
    | case3 s s' hs ih =>
      have hstep := h s
      rw [Session.after_of_ok hs] at hstep
      exact ih.trans hstep
  exact (Keeps.change fun m => hstate m .running).bind fun _ => hrounds

theorem keeps_writeRegister (h : ∀ (m : Machine) r, view { m with registers := r } = view m)
    (index value : UInt8) : Keeps view (Action.update (·.writeRegister index value)) :=
  .update h

theorem keeps_writeMemory (h : ∀ (m : Machine) mem, view { m with memory := mem } = view m)
    (addr : Nat) (value : UInt8) : Keeps view (Action.update (·.writeMemory addr value)) :=
  .update h

theorem keeps_alu (h : ∀ (m : Machine) r, view { m with registers := r } = view m)
    (op : Arithmetic) (regA regB : UInt8) : Keeps view (alu op regA regB) :=
  (Keeps.attempt _).bind fun _ => (Keeps.attempt _).bind fun _ => keeps_writeRegister h regA _

theorem keeps_load (h : ∀ (m : Machine) mem, view { m with memory := mem } = view m)
    (image : List UInt8) : Keeps view (load image) :=
  Keeps.bind (.update h) fun _ => .notify _

/-- What is done with a program behind its reading is the same for texts and files. -/
theorem keeps_logAll_load (h : ∀ (m : Machine) mem, view { m with memory := mem } = view m)
    (events : List Event) (image : List UInt8) :
    Keeps view (do
      Action.logAll events
      load image
      return image.length : Action Nat) :=
  (Keeps.logAll events).bind fun _ => (keeps_load h image).bind fun _ => .pure image.length

theorem keeps_loadText (h : ∀ (m : Machine) mem, view { m with memory := mem } = view m)
    (source : String) : Keeps view (loadText source) :=
  keeps_logAll_load h (Program.parse source).skipEvents (Program.parse source).image

theorem keeps_loadFile (h : ∀ (m : Machine) mem, view { m with memory := mem } = view m)
    (files : Files) (path : String) : Keeps view (loadFile files path) := by
  intro s
  unfold loadFile Session.after
  cases Program.ofFile files path with
  | error f => rfl
  | ok program =>
    exact (keeps_logAll_load h (program.fileEvents path) program.image).toTask s

end Machine

/-! ## Operations -/

/-- A view of the machine to which registers, memory and program counter do not belong. -/
structure Aside (view : Machine → γ) : Prop where
  registers : ∀ (m : Machine) r, view { m with registers := r } = view m
  memory    : ∀ (m : Machine) mem, view { m with memory := mem } = view m
  pc        : ∀ (m : Machine) pc, view { m with pc := pc } = view m

namespace Operation

open Ls8.Machine

/-- Whether an operation does no more than look at the machine or write to registers, memory and
program counter. -/
def isPlain : Operation → Bool
  | step | run | execute _ | reset | resetStatistics | setTracing _ | setHaltResetsPc _ => false
  | _ => true

theorem keeps_perform {op : Operation} (h : Aside view) (hplain : op.isPlain = true)
    (files : Files) : Keeps view (op.perform files) := by
  cases op with
  | step | run | execute | reset | resetStatistics | setTracing | setHaltResetsPc => cases hplain
  | load image => exact (keeps_load h.memory image).quietly
  | loadText source => exact (keeps_loadText h.memory source).answering _
  | loadFile path => exact (keeps_loadFile h.memory files path).map _
  | alu name regA regB =>
    exact ((Keeps.attempt _).bind fun op => keeps_alu h.registers op regA regB).quietly
  | poke addr value => exact (keeps_writeMemory h.memory addr value).quietly
  | setRegister index value => exact (keeps_writeRegister h.registers index value).quietly
  | setSp value => exact (Keeps.change fun m => h.registers m _).quietly
  | setPc value => exact (Keeps.change fun m => h.pc m value).quietly
  | peek | getRegister | decode => exact (Keeps.attempt _).answering _
  | sp | isHalted | traceLine | dump | report | depth | listing => exact (Keeps.ask _).answering _

end Operation

/-- A view of the machine to which run state and counters do not belong either; the switches and the
stack pointer of a reset are what is left. -/
structure Settled (view : Machine → γ) : Prop extends Aside view where
  state      : ∀ (m : Machine) r, view { m with state := r } = view m
  statistics : ∀ (m : Machine) st, view { m with statistics := st } = view m

theorem Settled.effect (h : Settled view) (inst : Instruction) (m : Machine) :
    view (m.effect inst) = view m := by
  cases inst with
  | halt => exact (h.pc { m with state := .halted } _).trans (h.state m _)
  | print => exact h.pc m _
  | loadImmediate | multiply | pop =>
    refine (h.pc _ _).trans ?_
    exact h.registers m _
  | push =>
    refine (h.pc _ _).trans ?_
    exact (h.memory { m with registers := _ } _).trans (h.registers m _)

theorem Settled.reset (h : Settled view) (m : Machine) : view m.reset = view m :=
  calc view m.reset
      = view { m with registers := .setSp .zero m.spInit, pc := 0, state := .running } :=
        h.statistics { m with registers := .setSp .zero m.spInit, pc := 0, state := .running } .zero
    _ = view { m with registers := .setSp .zero m.spInit, pc := 0 } :=
        h.state { m with registers := .setSp .zero m.spInit, pc := 0 } .running
    _ = view { m with registers := .setSp .zero m.spInit } :=
        h.pc { m with registers := .setSp .zero m.spInit } 0
    _ = view m := h.registers m _

namespace Operation

open Ls8.Machine

/-- Whether an operation sets one of the two switches. -/
def setsSwitch : Operation → Bool
  | setTracing _ | setHaltResetsPc _ => true
  | _ => false

theorem keeps_settled {op : Operation} (h : Settled view) (hswitch : op.setsSwitch = false)
    (files : Files) : Keeps view (op.perform files) := by
  have hstep : Keeps view Machine.step := keeps_step h.effect fun _ m => h.statistics m _
  cases hplain : op.isPlain with
  | true => exact keeps_perform h.toAside hplain files
  | false =>
    cases op with
    | step => exact hstep.answering _
    | run => exact (keeps_run hstep h.state).quietly
    | execute inst => exact (keeps_execute (h.effect inst)).quietly
    | reset => exact (Keeps.change h.reset).quietly
    | resetStatistics => exact (Keeps.change fun m => h.statistics m _).quietly
    | setTracing | setHaltResetsPc => cases hswitch
    | _ => cases hplain

end Operation

end Ls8
