/-!
# The output stream

Printed text goes to a stream that may have room for only so many characters in all. A write that
does not fit is cut: what fits stays written, and the writer learns that the rest was refused. Only
digits and line feeds are ever printed, so a character is a byte.

* `write_written` — what a write adds is the whole text, or as much as there is room for.
-/

namespace Ls8

/-- What was printed so far, and for how much more there is room. -/
structure Sink where
  written : List Char := []
  /-- Without a number there is room for everything. -/
  room : Option Nat := none
  deriving DecidableEq

namespace Sink

/-- How much of a text there is room for. -/
def accepts (s : Sink) (text : List Char) : List Char :=
  match s.room with
  | none => text
  | some n => text.take n

/-- Whether there is room for all of a text. -/
def hasRoomFor (s : Sink) (text : List Char) : Bool :=
  match s.room with
  | none => true
  | some n => text.length ≤ n

/-- The stream after a write. -/
def write (s : Sink) (text : List Char) : Sink where
  written := s.written ++ s.accepts text
  room := s.room.map (· - text.length)

theorem write_written (s : Sink) (text : List Char) :
    (s.write text).written = s.written ++ s.accepts text := rfl

theorem accepts_of_hasRoomFor {s : Sink} {text : List Char} (h : s.hasRoomFor text = true) :
    s.accepts text = text := by
  unfold hasRoomFor accepts at *
  cases hr : s.room with
  | none => rfl
  | some n =>
    simp only [hr, decide_eq_true_eq] at h
    exact List.take_of_length_le h

/-- Without limit there is room for everything. -/
theorem hasRoomFor_of_none {s : Sink} (h : s.room = none) (text : List Char) :
    s.hasRoomFor text = true := by
  simp [hasRoomFor, h]

end Sink

end Ls8
