import Mathlib.Data.List.TakeWhile
import Ls8.Program

/-!
# Lines and what they say

What cutting a text into lines and trimming a line come to, without regard to how either is done. The
lines of a text are its pieces between line feeds, but for an empty piece at the end. A line says what
stands before its first `#`, without the blanks at the two ends of that.

Main results:

* `lines_eq_pieces` — the lines of a text are its pieces.
* `trimmed_iff` — trimming finds the one part of a text that has only blanks around it and none at
  its ends.
* `hasContent_iff` — so the content of a line is the one thing that it says.
-/

namespace Ls8

namespace Text

/-! ## Lines -/

/-- The pieces of a text between line feeds. An empty piece behind the last line feed does not
count. -/
def pieces (text : List Char) : List (List Char) :=
  if (text.splitOn '\n').getLast? = some [] then (text.splitOn '\n').dropLast
  else text.splitOn '\n'

theorem splitOn_ne_nil (text : List Char) : text.splitOn '\n' ≠ [] := List.splitOnP_ne_nil _ _

theorem splitOn_cons (c : Char) (text : List Char) :
    (c :: text).splitOn '\n' =
      if c = '\n' then [] :: text.splitOn '\n' else (text.splitOn '\n').modifyHead (c :: ·) := by
  rw [List.splitOn, List.splitOnP_cons_eq_if_modifyHead]
  simp only [beq_iff_eq]
  rfl

/-- The lines of a text are its pieces. -/
theorem lines_eq_pieces (text : List Char) : lines text = pieces text := by
  induction text with
  | nil => rfl
  | cons c text ih =>
    rw [lines, ih, pieces, pieces, splitOn_cons]
    -- what follows the character has a first piece, which is also the last if it is the only one
    obtain ⟨piece, rest, hsplit⟩ := List.exists_cons_of_ne_nil (splitOn_ne_nil text)
    rw [hsplit]
    by_cases hc : c = '\n'
    · rw [if_pos hc, if_pos hc, List.getLast?_cons_cons]
      split <;> rfl
    · rw [if_neg hc, if_neg hc, List.modifyHead_cons]
      cases rest with
      | nil => cases piece <;> simp
      | cons next rest =>
        -- the last piece is another one, and stays as it is
        rw [List.getLast?_cons_cons, List.getLast?_cons_cons]
        by_cases hlast : (next :: rest).getLast? = some []
        · rw [if_pos hlast, if_pos hlast]
          rfl
        · rw [if_neg hlast, if_neg hlast]

/-! ## Trimming -/

/-- `core` is what remains of a text without the blanks at its two ends. -/
structure Trimmed (text core : List Char) : Prop where
  around : ∃ before after, text = before ++ core ++ after ∧
             (∀ c ∈ before, isBlank c = true) ∧ ∀ c ∈ after, isBlank c = true
  first  : ∀ c, core.head? = some c → isBlank c = false
  last   : ∀ c, core.getLast? = some c → isBlank c = false

/-- Nothing is dropped from a text that does not begin with a blank. -/
theorem dropWhile_of_head {cs : List Char} (h : ∀ c, cs.head? = some c → isBlank c = false) :
    cs.dropWhile isBlank = cs := by
  cases cs with
  | nil => rfl
  | cons c cs => rw [List.dropWhile_cons_of_neg (by simp [h c rfl])]

theorem head_dropWhile {cs : List Char} {c : Char} (h : (cs.dropWhile isBlank).head? = some c) :
    isBlank c = false := by
  have hhead := List.head?_dropWhile_not isBlank cs
  rw [h] at hhead
  exact hhead

theorem trimmed_trim (text : List Char) : Trimmed text (trim text) := by
  -- what is left when the blanks in front are gone, from its end
  have hback := List.takeWhile_append_dropWhile (p := isBlank)
    (l := (text.dropWhile isBlank).reverse)
  have hrest : text.dropWhile isBlank =
      trim text ++ ((text.dropWhile isBlank).reverse.takeWhile isBlank).reverse := by
    rw [trim, ← List.reverse_append, hback, List.reverse_reverse]
  refine ⟨⟨text.takeWhile isBlank, ((text.dropWhile isBlank).reverse.takeWhile isBlank).reverse,
    ?_, ?_, ?_⟩, ?_, ?_⟩
  · rw [List.append_assoc, ← hrest, List.takeWhile_append_dropWhile]
  · exact fun c hc => List.mem_takeWhile_imp hc
  · exact fun c hc => List.mem_takeWhile_imp (List.mem_reverse.1 hc)
  · intro c hc
    -- the first character of the core is the first one behind the blanks
    refine head_dropWhile (?_ : (text.dropWhile isBlank).head? = some c)
    rw [hrest, List.head?_append, hc]
    rfl
  · intro c hc
    rw [trim, List.getLast?_reverse] at hc
    exact head_dropWhile hc

/-- There is only one such part. -/
theorem Trimmed.eq_trim {text core : List Char} (h : Trimmed text core) : core = trim text := by
  obtain ⟨before, after, rfl, hbefore, hafter⟩ := h.around
  have hfront : (before ++ core ++ after).dropWhile isBlank = (core ++ after).dropWhile isBlank := by
    rw [List.append_assoc]
    exact List.dropWhile_append_of_pos hbefore
  have hblank : ∀ c ∈ after.reverse, isBlank c = true :=
    fun c hc => hafter c (List.mem_reverse.1 hc)
  rw [trim, hfront]
  cases core with
  | nil => simp [List.dropWhile_eq_nil_iff.2 hafter]
  | cons c core =>
    have hhead : ∀ d, (c :: core ++ after).head? = some d → isBlank d = false := h.first
    rw [dropWhile_of_head hhead, List.reverse_append, List.dropWhile_append_of_pos hblank,
      dropWhile_of_head, List.reverse_reverse]
    intro d hd
    rw [List.head?_reverse] at hd
    exact h.last d hd

theorem trimmed_iff {text core : List Char} : Trimmed text core ↔ core = trim text := by
  constructor
  · exact Trimmed.eq_trim
  · rintro rfl
    exact trimmed_trim text

end Text

namespace Program

/-- A line says what stands before its first `#`, without the blanks around it. -/
def HasContent (line content : List Char) : Prop :=
  ∃ said rest, line = said ++ rest ∧ '#' ∉ said ∧ (∀ c, rest.head? = some c → c = '#') ∧
    Text.Trimmed said content

/-- The part of a line before its first `#` is where a comment begins, or the whole line. -/
theorem takeWhile_said {said rest : List Char} (hsaid : '#' ∉ said)
    (hrest : ∀ c, rest.head? = some c → c = '#') :
    (said ++ rest).takeWhile (· ≠ '#') = said := by
  have hall : ∀ c ∈ said, decide (c ≠ '#') = true := by
    intro c hc
    rw [decide_eq_true_eq]
    rintro rfl
    exact hsaid hc
  rw [List.takeWhile_append_of_pos hall]
  cases rest with
  | nil => simp
  | cons c rest =>
    obtain rfl := hrest c rfl
    simp

theorem hasContent_iff {line content : List Char} : HasContent line content ↔ content = contentOf line := by
  constructor
  · rintro ⟨said, rest, rfl, hsaid, hrest, htrimmed⟩
    rw [contentOf, takeWhile_said hsaid hrest]
    exact Text.trimmed_iff.1 htrimmed
  · rintro rfl
    refine ⟨line.takeWhile (· ≠ '#'), line.dropWhile (· ≠ '#'), ?_, ?_, ?_, Text.trimmed_iff.2 rfl⟩
    · exact List.takeWhile_append_dropWhile.symm
    · intro hmem
      have hne := List.mem_takeWhile_imp hmem
      exact of_decide_eq_true hne rfl
    · intro c hc
      have hhead := List.head?_dropWhile_not (fun c => decide (c ≠ '#')) line
      rw [hc] at hhead
      simpa using hhead

end Program

end Ls8
