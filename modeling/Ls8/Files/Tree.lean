import Ls8.Files

/-!
# A tree of files

Files at given places of a tree of directories, and what reading a path gives then. A path is
walked part by part, from the top or from the place where paths without a slash in front begin, and
the first part that cannot be passed decides the error.
-/

namespace Ls8

/-- What is at a place of a tree. -/
inductive FileTree.Entry where
  | file (bytes : ByteArray)
  | directory

/-- A place of a tree: the names on the way to it from the top. -/
abbrev FileTree.Place := List String

/-- A tree of files: what is at some places, and where paths begin that have no slash in front. On
the way to these places there are directories; elsewhere there is nothing. -/
structure FileTree where
  entries : List (FileTree.Place × FileTree.Entry)
  working : FileTree.Place

namespace FileTree

/-- The longest name of a file, in bytes. -/
def longestName : Nat := 255

/-- Paths of this many bytes or more are refused. -/
def pathLimit : Nat := 4096

/-- The parts of a path between its slashes. -/
def parts (path : String) : List String := path.splitOn "/"

/-- What is at a place. -/
def entryAt? (t : FileTree) (place : Place) : Option Entry :=
  match t.entries.find? fun e => e.1 == place with
  | some e => some e.2
  | none =>
    if (t.working :: t.entries.map (·.1)).any place.isPrefixOf then some .directory else none

/-- Follows the parts of a path from a place, whose names are given from the last to the first.
Above the top there is the top. -/
def walk (t : FileTree) (way : List String) : List String → Except ReadError ByteArray
  | [] =>
    match t.entryAt? way.reverse with
    | none => .error .missing
    | some .directory => .error .isDirectory
    | some (.file bytes) => .ok bytes
  | part :: rest =>
    match t.entryAt? way.reverse with
    | none => .error .missing
    | some (.file _) => .error .notDirectory
    | some .directory =>
      if part = "" ∨ part = "." then walk t way rest
      else if part = ".." then walk t way.tail rest
      else if longestName < part.utf8ByteSize then .error .nameTooLong
      else walk t (part :: way) rest

/-- What reading each path gives. -/
def files (t : FileTree) : Files := fun path =>
  if path.contains '\x00' then .error .nulInName
  else if path.isEmpty then .error .missing
  else if pathLimit ≤ path.utf8ByteSize then .error .nameTooLong
  else t.walk (if path.startsWith "/" then [] else t.working.reverse) (parts path)

end FileTree

end Ls8
