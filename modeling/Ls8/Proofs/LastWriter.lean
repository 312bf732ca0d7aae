import Ls8.Proofs.History

/-!
# The last writer wins

Memory is written in two ways: a byte goes to an address, or an image to the addresses from 0. Seen
from one address, a history of such transfers has one that counts, which is the last one that succeeds
and covers the address. What the address held before is overwritten by it, and what comes after it
passes the address by.

A transfer for which there is no room counts nowhere. An image that is too long covers every address
there is, but nothing of it is copied, not even the part that would fit.

Main results:

* `read_of_perform` — memory after a transfer, read at every address.
* `read_performAll_of_spared`, `read_performAll_of_lastBrought` — a history, seen from an address that
  it spares and from one that it does not.
* `read_performAll_zero_iff` — a history of a new memory.
* `replay_memory` — the memory of a machine that is written to and loaded.
* `last_writer_wins` — all histories of a new memory, and what is refused.
-/

namespace Ls8

/-- Something that is brought into memory. -/
inductive Transfer where
  /-- A byte for an address. -/
  | write (addr : Nat) (value : UInt8)
  /-- An image for the addresses from 0. -/
  | load (image : List UInt8)
  deriving DecidableEq

namespace Transfer

/-- Memory with what is brought to it. -/
def perform (m : Memory) : Transfer → Except Fault Memory
  | write addr value => m.write addr value
  | load image => m.load image

/-- The same as a request to a machine. -/
def operation : Transfer → Operation
  | write addr value => .poke addr value
  | load image => .load image

/-- There is room in memory for what is brought. -/
def Fits : Transfer → Prop
  | write addr _ => addr < Memory.size
  | load image => image.length ≤ Memory.size

instance : DecidablePred Fits
  | write addr _ => inferInstanceAs (Decidable (addr < Memory.size))
  | load image => inferInstanceAs (Decidable (image.length ≤ Memory.size))

/-- The byte for an address, if the transfer covers it. A write covers the address it is for, and a load
every address that is less than the length of the image. -/
def byteAt? : Transfer → Nat → Option UInt8
  | write addr value, a => if a = addr then some value else none
  | load image, a => image[a]?

/-- The transfer succeeds, and it covers the address with the byte. -/
def Brings (t : Transfer) (a : Nat) (b : UInt8) : Prop := t.Fits ∧ t.byteAt? a = some b

instance (t : Transfer) (a : Nat) (b : UInt8) : Decidable (t.Brings a b) :=
  inferInstanceAs (Decidable (_ ∧ _))

/-- The transfer fails, or it does not cover the address. -/
def Spares (t : Transfer) (a : Nat) : Prop := t.Fits → t.byteAt? a = none

instance (t : Transfer) (a : Nat) : Decidable (t.Spares a) := inferInstanceAs (Decidable (_ → _))

end Transfer

namespace Memory

/-- Memory after a transfer. One that fails makes no new memory, so the old one stays. -/
def next (m : Memory) (t : Transfer) : Memory :=
  match t.perform m with
  | .ok m' => m'
  | .error _ => m

/-- Memory after a history of transfers, failed ones included. -/
def performAll (m : Memory) (history : List Transfer) : Memory := history.foldl next m

end Memory

/-- No transfer of the history that succeeds covers the address. -/
def Spared (history : List Transfer) (a : Nat) : Prop := ∀ t ∈ history, t.Spares a

instance (history : List Transfer) (a : Nat) : Decidable (Spared history a) :=
  inferInstanceAs (Decidable (∀ t ∈ history, t.Spares a))

/-- Of the transfers that succeed and cover the address, the last one has the byte for it. -/
def LastBrought (history : List Transfer) (a : Nat) (b : UInt8) : Prop :=
  ∃ before t after, history = before ++ t :: after ∧ t.Brings a b ∧ Spared after a

/-! ## One transfer -/

namespace Transfer

variable {m m' : Memory} {t : Transfer} {a : Nat} {b : UInt8} {f : Fault}

/-- What is covered has the byte that was brought, and all else is as before. -/
theorem read_of_perform (h : t.perform m = .ok m') (a : Nat) :
    m'.read a = (t.byteAt? a).elim (m.read a) .ok := by
  cases t with
  | write addr value =>
    rw [Memory.read_write h, byteAt?]
    split <;> rfl
  | load image =>
    rw [Memory.read_load h, byteAt?]
    by_cases ha : a < image.length
    · rw [dif_pos ha, List.getElem?_eq_getElem ha]
      rfl
    · rw [dif_neg ha, List.getElem?_eq_none (Nat.le_of_not_lt ha)]
      rfl

/-- Whether a transfer succeeds has nothing to do with what is in memory. -/
theorem exists_perform_iff : (∃ m', t.perform m = .ok m') ↔ t.Fits := by
  constructor
  · rintro ⟨m', h⟩
    cases t with
    | write addr value =>
      refine Nat.lt_of_not_le fun hle => ?_
      rw [perform, Memory.write_of_le hle] at h
      cases h
    | load image =>
      refine Nat.le_of_not_lt fun hlt => ?_
      rw [perform, Memory.load_of_lt hlt] at h
      cases h
  · intro h
    cases t with
    | write addr value => exact ⟨_, Memory.write_of_lt h⟩
    | load image => exact ⟨_, Memory.load_of_le h⟩

theorem next_of_perform (h : t.perform m = .ok m') : m.next t = m' := by
  rw [Memory.next, h]

theorem next_of_error (h : t.perform m = .error f) : m.next t = m := by
  rw [Memory.next, h]

theorem Brings.read_next (h : t.Brings a b) (m : Memory) : (m.next t).read a = .ok b := by
  obtain ⟨m', hm⟩ := exists_perform_iff.2 h.1
  rw [next_of_perform hm, read_of_perform hm, h.2]
  rfl

theorem Spares.read_next (h : t.Spares a) (m : Memory) : (m.next t).read a = m.read a := by
  cases hm : t.perform m with
  | ok m' =>
    rw [next_of_perform hm, read_of_perform hm, h (exists_perform_iff.1 ⟨m', hm⟩)]
    rfl
  | error f => rw [next_of_error hm]

/-- A transfer that does not spare an address brings a byte to it. -/
theorem spares_or_brings (t : Transfer) (a : Nat) : t.Spares a ∨ ∃ b, t.Brings a b := by
  by_cases hfits : t.Fits
  · cases hbyte : t.byteAt? a with
    | none => exact .inl fun _ => hbyte
    | some b => exact .inr ⟨b, hfits, hbyte⟩
  · exact .inl fun h => absurd h hfits

/-- In a machine a transfer is an action, which keeps what it did before it failed. This one has done
nothing then. -/
theorem next_memory (files : Files) (s : Session) (t : Transfer) :
    (t.operation.next files s).machine.memory = s.machine.memory.next t := by
  rw [Operation.next_eq_after]
  cases t with
  | write addr value =>
    rw [operation, Operation.perform, Session.after_quietly, Session.after, Action.update,
      Machine.writeMemory, Memory.next, perform]
    cases s.machine.memory.write addr value <;> rfl
  | load image =>
    rw [operation, Operation.perform, Session.after_quietly]
    -- the load is logged afterwards, but only if there was one
    cases hm : perform s.machine.memory (load image) with
    | ok mem =>
      rw [Session.after_of_ok (Machine.load_of_ok hm), next_of_perform hm]
      rfl
    | error f =>
      have hload : s.machine.loadImage image = .error f := by
        rw [Machine.loadImage, show s.machine.memory.load image = .error f from hm]
        rfl
      rw [Machine.load, Session.after_of_error (Action.bind_of_error (Action.update_of_error hload)),
        next_of_error hm]

end Transfer

/-! ## Histories -/

namespace Memory

variable {m : Memory} {history : List Transfer} {a : Nat} {b : UInt8}

theorem read_zero (h : a < size) : zero.read a = .ok 0 := by
  rw [read_of_lt h, zero, Vector.getElem_replicate]

theorem read_performAll_of_spared (h : Spared history a) (m : Memory) :
    (m.performAll history).read a = m.read a := by
  -- on the transfers, for whatever memory the ones before leave
  induction history generalizing m with
  | nil => rfl
  | cons t history ih =>
    have hrest := ih (fun u hu => h u (List.mem_cons_of_mem _ hu)) (m.next t)
    exact hrest.trans ((h t (List.mem_cons_self ..)).read_next m)

/-- What was brought last is still there, whatever the address held before. -/
theorem read_performAll_of_lastBrought (h : LastBrought history a b) (m : Memory) :
    (m.performAll history).read a = .ok b := by
  obtain ⟨before, t, after, rfl, hbrings, hafter⟩ := h
  rw [performAll, List.foldl_append, List.foldl_cons]
  -- the transfer puts the byte there in any memory, so what was done before it does not matter
  exact (read_performAll_of_spared hafter _).trans (hbrings.read_next _)

/-- A history that does not spare an address has a transfer that counts for it. -/
theorem spared_or_lastBrought (history : List Transfer) (a : Nat) :
    Spared history a ∨ ∃ b, LastBrought history a b := by
  induction history with
  | nil => exact .inl fun _ ht => nomatch ht
  | cons t history ih =>
    rcases ih with hspared | ⟨b, before, u, after, rfl, hlast⟩
    · -- the first transfer is the last one that counts, if it counts at all
      rcases t.spares_or_brings a with hspares | ⟨b, hbrings⟩
      · exact .inl (List.forall_mem_cons.2 ⟨hspares, hspared⟩)
      · exact .inr ⟨b, [], t, history, rfl, hbrings, hspared⟩
    · -- a later one counts, and still does with one more in front
      exact .inr ⟨b, t :: before, u, after, rfl, hlast⟩

/-- A machine that is written to and loaded has in its memory what memory by itself would have. -/
theorem replay_memory (files : Files) (s : Session) (history : List Transfer) :
    (Operation.replay files s (history.map Transfer.operation)).machine.memory =
      s.machine.memory.performAll history := by
  induction history generalizing s with
  | nil => rfl
  | cons t history ih =>
    have hrest := ih (t.operation.next files s)
    rw [Transfer.next_memory] at hrest
    exact hrest

/-- What is read from a memory that was new at first. -/
theorem read_performAll_zero_iff :
    (zero.performAll history).read a = .ok b ↔
      a < size ∧ (LastBrought history a b ∨ Spared history a ∧ b = 0) := by
  constructor
  · intro h
    obtain ⟨ha, -⟩ := read_eq_ok_iff.1 h
    refine ⟨ha, ?_⟩
    -- the byte that was read is the only one that the address can have
    rcases spared_or_lastBrought history a with hspared | ⟨c, hlast⟩
    · rw [read_performAll_of_spared hspared, read_zero ha] at h
      exact .inr ⟨hspared, (Except.ok.inj h).symm⟩
    · rw [read_performAll_of_lastBrought hlast] at h
      exact .inl (Except.ok.inj h ▸ hlast)
  · rintro ⟨ha, hlast | ⟨hspared, rfl⟩⟩
    · exact read_performAll_of_lastBrought hlast zero
    · rw [read_performAll_of_spared hspared, read_zero ha]

/--
**The last writer wins.** Take any history of writes and loads of a new memory, with any addresses and
any images. Afterwards an address inside memory reads as the byte that was brought by the last transfer
that succeeded and covers it, and as zero if there is none.

Reading and writing fail at the addresses from 256 on and nowhere else, and say at which. Loading fails
for the images of more than 256 bytes and for no others, and says how many there are. What fails leaves
every cell as it is. The same goes for a machine that is written to and loaded.
-/
theorem last_writer_wins (history : List Transfer) :
    (∀ a b, (zero.performAll history).read a = .ok b ↔
      a < size ∧ (LastBrought history a b ∨ Spared history a ∧ b = 0)) ∧
    (∀ m : Memory,
      (∀ t : Transfer, (∃ m', t.perform m = .ok m') ↔ t.Fits) ∧
      (∀ a f, m.read a = .error f ↔ size ≤ a ∧ f = .addressOutOfRange a) ∧
      (∀ a value f, m.write a value = .error f ↔ size ≤ a ∧ f = .addressOutOfRange a) ∧
      (∀ image f, m.load image = .error f ↔
        size < image.length ∧ f = .programTooLarge image.length size) ∧
      ∀ t f, t.perform m = .error f → m.next t = m) ∧
    ∀ files (s : Session),
      (Operation.replay files s (history.map Transfer.operation)).machine.memory =
        s.machine.memory.performAll history := by
  refine ⟨fun a b => read_performAll_zero_iff, fun m => ?_, fun files s => replay_memory files s history⟩
  exact ⟨fun t => Transfer.exists_perform_iff, fun a f => read_eq_error_iff,
    fun a value f => write_eq_error_iff, fun image f => load_eq_error_iff,
    fun t f h => Transfer.next_of_error h⟩

/-- Two loads of different length, a write between them, and after each of them one that is refused. -/
def overlapping : List Transfer :=
  [.load [1, 2, 3], .load (List.replicate 257 7), .write 1 9, .write 256 8, .load [5]]

/-- One address of each kind: covered by the load at the end, by the write and by the first load only,
not covered, and outside memory. -/
theorem last_writer_wins_overlapping :
    (zero.performAll overlapping).read 0 = .ok 5 ∧
    (zero.performAll overlapping).read 1 = .ok 9 ∧
    (zero.performAll overlapping).read 2 = .ok 3 ∧
    (zero.performAll overlapping).read 3 = .ok 0 ∧
    (zero.performAll overlapping).read 256 = .error (.addressOutOfRange 256) := by
  obtain ⟨hread, hfaults, -⟩ := last_writer_wins overlapping
  refine ⟨(hread 0 5).2 ⟨by decide, .inl ?_⟩, (hread 1 9).2 ⟨by decide, .inl ?_⟩,
    (hread 2 3).2 ⟨by decide, .inl ?_⟩, (hread 3 0).2 ⟨by decide, .inr ⟨?_, rfl⟩⟩,
    ((hfaults _).2.1 256 _).2 ⟨by decide, rfl⟩⟩
  · exact ⟨overlapping.take 4, .load [5], [], rfl, by decide, by decide⟩
  · exact ⟨overlapping.take 2, .write 1 9, overlapping.drop 3, rfl, by decide, by decide⟩
  · exact ⟨[], .load [1, 2, 3], overlapping.drop 1, rfl, by decide, by decide +kernel⟩
  · decide +kernel

end Memory

end Ls8
