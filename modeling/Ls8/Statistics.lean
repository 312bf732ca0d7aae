import Ls8.Instruction

/-!
# Statistics

Counters of what a machine did: how many instructions retired, how many of each kind, how many
values were printed, and how deep the stack went. Counters only grow until they are cleared.

A counter stands for a word of 64 bits and is a number here. No counter grows by more than one with an
instruction, so the two are the same until `2 ^ 64` instructions have retired since the counters were
cleared, and nothing is meant to be said of what comes then.
-/

namespace Ls8

/-- The counters of a machine, each of them below `2 ^ 64`. -/
structure Statistics where
  /-- Instructions executed to their end, `HLT` included. -/
  retired : Nat := 0
  /-- Values that `PRN` wrote. -/
  printed : Nat := 0
  halts : Nat := 0
  loads : Nat := 0
  prints : Nat := 0
  arithmetic : Nat := 0
  pushes : Nat := 0
  pops : Nat := 0
  /-- The greatest excess of pushes over pops. -/
  maxDepth : Nat := 0
  deriving DecidableEq

namespace Statistics

/-- Every counter at zero. -/
def zero : Statistics := {}

/-- How many pushed bytes have not been popped; never below zero. -/
def depth (s : Statistics) : Nat := s.pushes - s.pops

/-- Counts one retired instruction. -/
def record (s : Statistics) (inst : Instruction) : Statistics :=
  let s := { s with retired := s.retired + 1 }
  match inst with
  | .halt => { s with halts := s.halts + 1 }
  | .loadImmediate _ _ => { s with loads := s.loads + 1 }
  | .print _ => { s with prints := s.prints + 1, printed := s.printed + 1 }
  | .multiply _ _ => { s with arithmetic := s.arithmetic + 1 }
  | .push _ =>
    let s := { s with pushes := s.pushes + 1 }
    { s with maxDepth := max s.maxDepth s.depth }
  | .pop _ => { s with pops := s.pops + 1 }

end Statistics

end Ls8
