import Ls8.Text.Visible

/-!
# Quoted text

Text between quotes, so written that its ends and its invisible characters can be seen. Quotes,
backslashes and the usual control characters have a short escape; any other character that does not
show on its own is written by its number.
-/

namespace Ls8.Text

/-- The number of a character, such as `\u{200b}`. -/
def escapeByNumber (c : Char) : List Char :=
  ['\\', 'u', '\x7b'] ++ Nat.toDigits 16 c.toNat ++ ['\x7d']

/-- A character as it stands between quotes. -/
def escape (c : Char) : List Char :=
  match c with
  | '"' => ['\\', '"']
  | '\\' => ['\\', '\\']
  | '\x00' => ['\\', '0']
  | '\t' => ['\\', 't']
  | '\n' => ['\\', 'n']
  | '\r' => ['\\', 'r']
  | c => if isVisible c then [c] else escapeByNumber c

/-- A text between quotes. -/
def quote (s : String) : String :=
  String.ofList (['"'] ++ s.toList.flatMap escape ++ ['"'])

end Ls8.Text
