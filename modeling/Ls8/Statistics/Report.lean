import Ls8.Decimal.Fixed
import Ls8.Statistics

/-!
# The statistics report

The totals of a run and its instruction mix as a table of text. A share of the mix is a double,
the count over the total times a hundred, and is printed with two places.
-/

namespace Ls8.Statistics

/-- How wide the rules of the report are. -/
def reportWidth : Nat := 58

/-- A line across the report. -/
def rule (c : Char) : String := String.ofList (List.replicate reportWidth c)

/-- A name in a column of the given width, and the text behind it. -/
def column (width : Nat) (name text : String) : String :=
  String.ofList (name.toList.rightpad width ' ') ++ text

/-- The share of `n` among all retired instructions, in hundredths; of none when none retired. -/
def percent (s : Statistics) (n : Nat) : Float :=
  Float.ofNat n / Float.ofNat (max s.retired 1) * 100

/-- The share of `n` with two places, such as `33.33%`. -/
def percentText (s : Statistics) (n : Nat) : String :=
  Fixed.text 2 (Binary64.ofFloat (s.percent n)) ++ "%"

/-- The counters of the instruction mix under their names, in the order of the report. -/
def mix (s : Statistics) : List (String × Nat) :=
  [("op.ldi", s.loads), ("op.prn", s.prints), ("op.alu", s.arithmetic), ("op.push", s.pushes),
    ("op.pop", s.pops), ("op.hlt", s.halts)]

/-- The report, without a line feed at its end. -/
def report (s : Statistics) : String :=
  let total (name : String) (n : Nat) := column 25 name (toString n)
  let share (entry : String × Nat) :=
    "  " ++ column 21 entry.1 (toString entry.2 ++ " (" ++ s.percentText entry.2 ++ ")")
  String.intercalate "\n" <|
    [rule '=', "LS-8 EXECUTION STATISTICS", rule '=',
      total "sim_insts" s.retired, total "sim_prints" s.printed,
      total "stack.max_depth" s.maxDepth, rule '-', "INSTRUCTION MIX"]
    ++ s.mix.map share ++ [rule '=']

end Ls8.Statistics
