import Ls8.Json.Scalar
import Ls8.Proofs.Json.Grammar

/-!
# Reading by a grammar

A reader follows the grammar in two directions. What it takes from the front of the bytes is space
and a value of the grammar, which means what the reader answers; and in front of such a value it
does not fail, if what follows cannot be taken for more of it. Numbers alone are in danger of that.

Main definitions:

* `Ends` — the bytes do not continue a number.
* `Reads` — a reader, and what the values mean that it reads.
-/

namespace Ls8.Json

variable {α β : Type} {b : UInt8} {bytes rest behind : Bytes}

/-! ## Readers made of readers -/

theorem bind_eq_ok_iff {x : Except Failure α} {f : α → Except Failure β} {c : β} :
    x >>= f = .ok c ↔ ∃ a, x = .ok a ∧ f a = .ok c := by
  cases x <;> simp [bind, Except.bind]

theorem map_eq_ok_iff {x : Except Failure α} {f : α → β} {c : β} :
    x.map f = .ok c ↔ ∃ a, x = .ok a ∧ f a = c := by
  cases x <;> simp [Except.map]

/-! ## Space -/

theorem isSpace_iff : isSpace b = true ↔ b ∈ spaces := by
  simp only [isSpace, spaces, Bool.or_eq_true, beq_iff_eq, List.mem_cons, List.not_mem_nil, or_false,
    or_assoc]

theorem Space.trans {r : Bytes} (h : Space bytes r) (h' : Space r rest) : Space bytes rest := by
  induction h with
  | nil => exact h'
  | cons hb _ ih => exact .cons hb (ih h')

/-- What is left out is space. -/
theorem space_skipSpace (bytes : Bytes) : Space bytes (skipSpace bytes) := by
  induction bytes with
  | nil => exact .nil []
  | cons b bytes ih =>
    rw [skipSpace, List.dropWhile_cons]
    split
    next hb => exact .cons (isSpace_iff.1 hb) ih
    next => exact .nil _

/-- Space makes no difference where space is left out. -/
theorem Space.skipSpace_eq (h : Space bytes rest) : skipSpace bytes = skipSpace rest := by
  induction h with
  | nil => rfl
  | cons hb _ ih => rw [skipSpace, List.dropWhile_cons, if_pos (isSpace_iff.2 hb)]; exact ih

theorem skipSpace_cons (hb : b ∉ spaces) : skipSpace (b :: rest) = b :: rest := by
  rw [skipSpace, List.dropWhile_cons, if_neg fun h => hb (isSpace_iff.1 h)]

theorem skipSpace_eq_cons_iff (hb : b ∉ spaces) :
    skipSpace bytes = b :: rest ↔ Space bytes (b :: rest) := by
  constructor
  · intro h
    rw [← h]
    exact space_skipSpace bytes
  · intro h
    rw [h.skipSpace_eq, skipSpace_cons hb]

/-! ## Where numbers end -/

/-- The bytes cannot be taken for more of the number in front of them. -/
def Ends (bytes : Bytes) : Prop := ∀ b ∈ bytes.head?, b ∉ utf8 "0123456789.eE"

theorem Ends.nil : Ends [] := fun _ h => absurd h (by simp)

theorem ends_cons (h : b ∉ utf8 "0123456789.eE") : Ends (b :: rest) := by
  intro c hc
  rwa [← Option.some.inj hc]

/-- Space ends a number, and so does what does so behind it. -/
theorem Space.ends (h : Space bytes rest) (hends : Ends rest) : Ends bytes := by
  have hspaces : ∀ c ∈ spaces, c ∉ utf8 "0123456789.eE" := by decide +kernel
  cases h with
  | nil => exact hends
  | cons hb _ => exact ends_cons (hspaces _ hb)

/-! ## Readers and what they read -/

/-- What the values mean that a reader reads. It takes space and a value from the front, and it does
so wherever there is a value that means something, if a number is at its end there. -/
structure Reads (read : Reader α) (means : Value → α → Prop) : Prop where
  sound : ∀ {bytes rest a}, read bytes = .ok (a, rest) →
    ∃ v start, Space bytes start ∧ Writes v start rest ∧ means v a
  complete : ∀ {bytes start rest v a}, Space bytes start → Writes v start rest → means v a →
    Ends rest → read bytes = .ok (a, rest)

theorem Reads.of_iff {read : Reader α} {means means' : Value → α → Prop} (h : Reads read means)
    (hiff : ∀ v a, means v a ↔ means' v a) : Reads read means' where
  sound := by
    intro bytes rest a hread
    obtain ⟨v, start, hspace, hwrites, hmeans⟩ := h.sound hread
    exact ⟨v, start, hspace, hwrites, (hiff v a).1 hmeans⟩
  complete := by
    intro bytes start rest v a hspace hwrites hmeans hends
    exact h.complete hspace hwrites ((hiff v a).2 hmeans) hends

/-- What is made of the value that was read means what the value means. -/
theorem Reads.map {read : Reader α} {means : Value → α → Prop} (h : Reads read means) (f : α → β) :
    Reads (fun bytes => (read bytes).map fun (a, rest) => (f a, rest))
      (fun v c => ∃ a, means v a ∧ c = f a) where
  sound := by
    intro bytes rest c hread
    obtain ⟨⟨a, _⟩, hok, heq⟩ := map_eq_ok_iff.1 hread
    cases heq
    obtain ⟨v, start, hspace, hwrites, hmeans⟩ := h.sound hok
    exact ⟨v, start, hspace, hwrites, a, hmeans, rfl⟩
  complete := by
    rintro bytes start rest v _ hspace hwrites ⟨a, hmeans, rfl⟩ hends
    exact map_eq_ok_iff.2 ⟨(a, rest), h.complete hspace hwrites hmeans hends, rfl⟩

end Ls8.Json
