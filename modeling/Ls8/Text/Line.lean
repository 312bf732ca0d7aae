/-!
# Lines

A text cut at its line feeds. A line feed ends a line, so an empty piece behind the last one is no
line.

* `lines_cons_feed`, `lines_append_feed` — a line feed ends the line before it.
-/

namespace Ls8.Text

/-- The lines of a text, without their line feeds. -/
def lines : List Char → List (List Char)
  | [] => []
  | c :: rest =>
    if c = '\n' then [] :: lines rest
    else
      match lines rest with
      | [] => [[c]]
      | l :: ls => (c :: l) :: ls

theorem lines_cons_feed (rest : List Char) : lines ('\n' :: rest) = [] :: lines rest := by
  simp [lines]

/-- A piece without line feed is one line, ended by the line feed behind it. -/
theorem lines_append_feed {l : List Char} (h : '\n' ∉ l) (rest : List Char) :
    lines (l ++ '\n' :: rest) = l :: lines rest := by
  induction l with
  | nil => exact lines_cons_feed rest
  | cons c l ih =>
    have hc : c ≠ '\n' := fun hc => h (hc ▸ List.mem_cons_self)
    have hl : '\n' ∉ l := fun hl => h (List.mem_cons_of_mem _ hl)
    simp [lines, hc, ih hl]

/-- A last piece without line feed is a line if it is not empty. -/
theorem lines_of_no_feed {l : List Char} (h : '\n' ∉ l) (hne : l ≠ []) : lines l = [l] := by
  induction l with
  | nil => exact absurd rfl hne
  | cons c l ih =>
    have hc : c ≠ '\n' := fun hc => h (hc ▸ List.mem_cons_self)
    cases l with
    | nil => simp [lines, hc]
    | cons d l =>
      have hl : '\n' ∉ d :: l := fun hl => h (List.mem_cons_of_mem _ hl)
      rw [lines, if_neg hc, ih hl (List.cons_ne_nil _ _)]

end Ls8.Text
