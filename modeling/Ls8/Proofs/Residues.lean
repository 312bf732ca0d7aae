import Mathlib.Data.Int.ModEq
import Ls8.Proofs.Effect

/-!
# Registers as residues

A register has eight bits and every result is cut down to them, so what is left of a calculation is its
residue modulo 256. It does not matter that the cut is made again and again on the way: the three
operations respect congruence, so a sequence of them can be followed in the integers, where numbers grow
and become negative, and the residues are taken once at the end.

The operations work in place. `Represents` relates all eight registers at once, so it makes no difference
which of them an operation reads and which it overwrites, also when they are the same.

Main results:

* `Arithmetic.toNat_apply` — a result is the residue of the one in the integers.
* `Represents.perform`, `Represents.performAll` — one calculation in place, and any sequence of them.
* `aluAll_computes_residues` — what the machine makes of a sequence, and what it leaves alone.
-/

namespace Ls8

/-! ## Without wrapping -/

namespace Arithmetic

/-- The result in the integers. -/
def exact : Arithmetic → Int → Int → Int
  | add, x, y => x + y
  | sub, x, y => x - y
  | mul, x, y => x * y

/-- The result on bytes is the residue of the one in the integers. -/
theorem toNat_apply (op : Arithmetic) (a b : UInt8) :
    ((op.apply a b).toNat : Int) = op.exact a.toNat b.toNat % 256 := by
  cases op with
  | add =>
    rw [apply, exact, UInt8.toNat_add]
    rfl
  | sub =>
    -- bytes are subtracted by way of 256, so that nothing becomes negative
    have hb := b.toNat_lt
    rw [apply, exact, UInt8.toNat_sub]
    omega
  | mul =>
    rw [apply, exact, UInt8.toNat_mul]
    rfl

theorem exact_modEq (op : Arithmetic) {x x' y y' : Int} (hx : x ≡ x' [ZMOD 256])
    (hy : y ≡ y' [ZMOD 256]) : op.exact x y ≡ op.exact x' y' [ZMOD 256] := by
  cases op with
  | add => exact hx.add hy
  | sub => exact hx.sub hy
  | mul => exact hx.mul hy

end Arithmetic

/-! ## Calculations in place -/

/-- An operation on two of the eight registers, with its result in the first. -/
structure Calculation where
  op : Arithmetic
  regA : UInt8
  regB : UInt8
  regA_lt : regA.toNat < Registers.count := by decide
  regB_lt : regB.toNat < Registers.count := by decide

namespace Calculation

/-- The registers after a calculation. -/
def perform (c : Calculation) (r : Registers) : Registers :=
  r.put c.regA (c.op.apply (r.value c.regA) (r.value c.regB))

/-- The registers after calculations, one after the other. -/
def performAll (calls : List Calculation) (r : Registers) : Registers :=
  calls.foldl (fun r c => c.perform r) r

/-- Integers in place of the registers, after the same calculation. -/
def evaluate (c : Calculation) (v : Vector Int Registers.count) : Vector Int Registers.count :=
  have hA := c.regA_lt
  have hB := c.regB_lt
  v.set c.regA.toNat (c.op.exact v[c.regA.toNat] v[c.regB.toNat])

/-- Integers in place of the registers, after the same calculations. -/
def evaluateAll (calls : List Calculation) (v : Vector Int Registers.count) :
    Vector Int Registers.count :=
  calls.foldl (fun v c => c.evaluate v) v

end Calculation

namespace Registers

open Calculation

variable {r : Registers} {index b : UInt8} {v : Vector Int count} {x : Int}

theorem value_eq_getElem (h : index.toNat < count) : r.value index = r.cells[index.toNat] := by
  rw [value, read_of_lt h]
  rfl

theorem cells_put (h : index.toNat < count) : (r.put index b).cells = r.cells.set index.toNat b := by
  rw [put, write_of_lt h]
  rfl

/-- Each of the integers is congruent to the byte in the register at its place. -/
def Represents (v : Vector Int count) (r : Registers) : Prop :=
  ∀ (k : Nat) (h : k < count), v[k] ≡ r.cells[k].toNat [ZMOD 256]

theorem Represents.put (hv : Represents v r) (h : index.toNat < count)
    (hx : x ≡ b.toNat [ZMOD 256]) : Represents (v.set index.toNat x) (r.put index b) := by
  intro k hk
  simp only [cells_put h, Vector.getElem_set]
  by_cases hindex : index.toNat = k
  · rw [if_pos hindex, if_pos hindex]
    exact hx
  · rw [if_neg hindex, if_neg hindex]
    exact hv k hk

/-- A calculation and the same in the integers leave registers and integers congruent. -/
theorem Represents.perform (hv : Represents v r) (c : Calculation) :
    Represents (c.evaluate v) (c.perform r) := by
  refine hv.put c.regA_lt ?_
  -- both operands are read before the result overwrites one of them
  have hA := hv c.regA.toNat c.regA_lt
  have hB := hv c.regB.toNat c.regB_lt
  rw [c.op.toNat_apply, value_eq_getElem c.regA_lt, value_eq_getElem c.regB_lt]
  exact (c.op.exact_modEq hA hB).trans (Int.mod_modEq _ _).symm

theorem Represents.performAll (hv : Represents v r) (calls : List Calculation) :
    Represents (evaluateAll calls v) (performAll calls r) := by
  -- on the calls, for whatever the ones before leave
  induction calls generalizing v r with
  | nil => exact hv
  | cons c calls ih => exact ih (hv.perform c)

/-- A register is the residue of the integer that represents it. -/
theorem Represents.emod_eq (hv : Represents v r) {k : Nat} (hk : k < count) :
    v[k] % 256 = r.cells[k].toNat := by
  have hlt : (r.cells[k].toNat : Int) < 256 := by exact_mod_cast r.cells[k].toNat_lt
  exact Eq.trans (hv k hk) (Int.emod_eq_of_lt (Int.natCast_nonneg _) hlt)

end Registers

namespace Machine

open Ls8.Action Registers Calculation

variable {s : Session} {v : Vector Int count}

/-- Lets the machine make calculations in order, up to the first that fails. -/
def aluAll : List Calculation → Action Unit
  | [] => pure ()
  | c :: calls => do
    alu c.op c.regA c.regB
    aluAll calls

/-- No calculation on the eight registers fails, and all that it changes are the registers. -/
theorem aluAll_eq (calls : List Calculation) (s : Session) :
    aluAll calls s = .ok () { s with machine :=
      { s.machine with registers := performAll calls s.machine.registers } } := by
  induction calls generalizing s with
  | nil => rfl
  | cons c calls ih =>
    rw [aluAll, bind_of_ok (alu_of_lt c.regA_lt c.regB_lt s)]
    exact ih _

/--
**The registers compute in the integers modulo 256.** Take any sequence of additions, subtractions and
multiplications, each on two of the eight registers and with its result in the first, and eight integers
that are congruent to the registers modulo 256.

The machine makes all of these calculations. When the same are made in place with the integers, which
have no bounds, their residues from 0 to 255 are what the registers hold then. Nothing has changed but
the registers.
-/
theorem aluAll_computes_residues (hv : Represents v s.machine.registers) (calls : List Calculation) :
    ∃ t : Session, aluAll calls s = .ok () t ∧
      (∀ (k : Nat) (h : k < count),
        (evaluateAll calls v)[k] % 256 = t.machine.registers.cells[k].toNat) ∧
      t = { s with machine := { s.machine with registers := t.machine.registers } } :=
  ⟨_, aluAll_eq calls s, fun _ hk => (hv.performAll calls).emod_eq hk, rfl⟩

/-- A new machine with 200 in `R0`, 3 in `R1` and 244 in `R7`. -/
def threeNumbers : Session where
  machine := { ofConfig {} with registers := ⟨#v[200, 3, 0, 0, 0, 0, 0, 244]⟩ }

/-- Integers for these registers, of which one is too large for a byte and two are negative. -/
def threeIntegers : Vector Int count := #v[-56, 771, 0, 0, 0, 0, 0, -12]

/-- A square, a double and two differences, of which the second is negative. -/
def squareAndDouble : List Calculation :=
  [.mk .sub 1 0, .mk .mul 0 0, .mk .add 7 7, .mk .sub 7 1]

/-- The integers run out of the range of a byte on both sides, and 173 is what is left of -851. -/
theorem aluAll_computes_residues_negative :
    Represents threeIntegers threeNumbers.machine.registers ∧
      evaluateAll squareAndDouble threeIntegers = #v[3136, 827, 0, 0, 0, 0, 0, -851] ∧
      ∃ t : Session, aluAll squareAndDouble threeNumbers = .ok () t ∧
        t.machine.registers.sp.toNat = 173 ∧
        t.machine.statistics = threeNumbers.machine.statistics := by
  have hv : Represents threeIntegers threeNumbers.machine.registers := by
    unfold Represents
    decide
  have hintegers : evaluateAll squareAndDouble threeIntegers =
      #v[3136, 827, 0, 0, 0, 0, 0, -851] := by
    decide
  obtain ⟨t, ht, hresidues, hsame⟩ := aluAll_computes_residues hv squareAndDouble
  refine ⟨hv, hintegers, t, ht, ?_, by rw [hsame]⟩
  have hlast : (evaluateAll squareAndDouble threeIntegers)[7] % 256 = 173 := by decide
  exact_mod_cast (hresidues 7 (by decide)).symm.trans hlast

end Machine

end Ls8
