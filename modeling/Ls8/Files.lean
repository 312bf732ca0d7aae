/-!
# Files

What reading a path gives: the bytes of a file, or why there are none. Programs and configurations
are text, so a file that is not UTF-8 cannot be used either.
-/

namespace Ls8

/-- Why a file could not be read as text. -/
inductive ReadError where
  | missing
  | notDirectory
  | isDirectory
  | nameTooLong
  | permissionDenied
  /-- The path holds a NUL character, which no file name can. -/
  | nulInName
  | notText
  /-- Anything else, in the words of the system. -/
  | other (words : String)
  deriving DecidableEq

/-- The words for why a file could not be read. -/
def ReadError.message : ReadError → String
  | missing => "No such file or directory (os error 2)"
  | notDirectory => "Not a directory (os error 20)"
  | isDirectory => "Is a directory (os error 21)"
  | nameTooLong => "File name too long (os error 36)"
  | permissionDenied => "Permission denied (os error 13)"
  | nulInName => "file name contained an unexpected NUL byte"
  | notText => "stream did not contain valid UTF-8"
  | other words => words

/-- What reading each path gives. -/
abbrev Files := String → Except ReadError ByteArray

/-- The text of a file. -/
def Files.readText (files : Files) (path : String) : Except ReadError String := do
  match String.fromUTF8? (← files path) with
  | some text => return text
  | none => throw .notText

end Ls8
