import Ls8.Proofs.Step

/-!
# Earlier notices

What an action notices goes behind the notices that are there, and no action looks at them. So with other
notices in front it does the same, ends the same, and leaves those in front. Of a run that begins behind a
log this says which notices are its own.

Main results:

* `unread_step`, `unread_run` — a step and a run do not depend on earlier notices.
* `run_behind` — a run behind a log is the run without it, with the log in front.
-/

namespace Ls8

variable {ε α β : Type}

/-! ## Notices in front -/

/-- The session with other notices in front of its own. -/
def Session.behind (s : Session) (past : List Notice) : Session :=
  { s with notices := past ++ s.notices }

/-- The same end in the session with other notices in front of its own. -/
def endBehind (past : List Notice) : EStateM.Result ε Session α → EStateM.Result ε Session α
  | .ok a s => .ok a (s.behind past)
  | .error e s => .error e (s.behind past)

/-- The action adds to the notices and does not read them: with others in front it ends alike. -/
def Unread (x : EStateM ε Session α) : Prop :=
  ∀ (past : List Notice) (s : Session), x (s.behind past) = endBehind past (x s)

namespace Unread

theorem bind {x : EStateM ε Session α} {f : α → EStateM ε Session β} (hx : Unread x)
    (hf : ∀ a, Unread (f a)) : Unread (x >>= f) := by
  intro past s
  simp only [Bind.bind, EStateM.bind, hx past s]
  cases x s with
  | ok a t => exact hf a past t
  | error e t => rfl

theorem ask (f : Machine → α) : Unread (Action.ask f) := fun _ _ => rfl

theorem attempt (f : Machine → Except Fault α) : Unread (Action.attempt f) := by
  intro past s
  cases h : f s.machine with
  | ok a => rw [Action.attempt_of_ok h, Action.attempt_of_ok (s := s.behind past) h, endBehind]
  | error e =>
    rw [Action.attempt_of_error h, Action.attempt_of_error (s := s.behind past) h, endBehind]

theorem change (f : Machine → Machine) : Unread (Action.change f) := fun _ _ => rfl

/-- A notice goes to the end, so what is in front stays there. -/
theorem notify (n : Notice) : Unread (Action.notify n) := by
  intro past s
  simp only [Action.notify, Session.note, Session.behind, endBehind, List.append_assoc]

theorem write (text : List Char) : Unread (Action.write text) := by
  intro past s
  show (if s.output.hasRoomFor text then _ else _) = _
  unfold Action.write
  cases s.output.hasRoomFor text <;> rfl

end Unread

/-! ## Steps and runs -/

namespace Machine

open Ls8.Action

theorem unread_execute (inst : Instruction) : Unread (execute inst) := by
  intro past s
  -- an operand that names no register is found before anything is written
  cases hstray : inst.stray? with
  | some r =>
    rw [execute_of_stray hstray, execute_of_stray hstray]
    rfl
  | none =>
    have hnamed := Instruction.stray?_eq_none_iff.1 hstray
    rw [execute_of_wellNamed hnamed, execute_of_wellNamed hnamed]
    exact ((Unread.write _).bind fun _ => Unread.change _) past s

theorem unread_traceState : Unread traceState := by
  intro past s
  show (if s.machine.tracing then _ else _) = _
  unfold traceState
  cases s.machine.tracing with
  | true => exact Unread.notify _ past s
  | false => rfl

theorem unread_step : Unread step := by
  refine unread_traceState.bind fun _ => (Unread.attempt _).bind fun inst => ?_
  refine (Unread.ask _).bind fun pc => (Unread.notify _).bind fun _ => ?_
  exact (unread_execute inst).bind fun _ => (Unread.change _).bind fun _ => Unread.ask _

theorem unread_runOn : Unread runOn := by
  intro past s
  -- round by round; each ends as without the notices in front
  fun_induction runOn s with
  | case1 s f s' hs =>
    rw [runOn_eq, unread_step, hs]
    rfl
  | case2 s s' hs =>
    rw [runOn_eq, unread_step, hs]
    exact Unread.notify _ past s'
  | case3 s s' hs ih =>
    rw [runOn_eq, unread_step, hs]
    exact ih

theorem unread_run : Unread run := (Unread.change _).bind fun _ => unread_runOn

/-- Behind a log a machine runs as without it. -/
theorem run_behind (m : Machine) (past : List Notice) :
    run { machine := m, notices := past } = endBehind past (run { machine := m }) := by
  rw [← unread_run, Session.behind, List.append_nil]

end Machine

end Ls8
