/-!
# Paths and devices

A path is a text of names with slashes between them. It leads from directory to directory, beginning
at the one of the program or, behind a slash, at the outermost one. A few files are devices, which
keep nothing.
-/

namespace Groupwise

/-- The names that lead to a file or to a directory from the outermost directory. -/
abbrev Location := List String

namespace Memory

/-! ### Paths -/

/-- A path: the names along it, and whether slashes stand around them. -/
structure Path where
  /-- The number of bytes of its text. -/
  size : Nat
  absolute : Bool
  names : List String
  /-- It can lead to directories only. -/
  closed : Bool

namespace Path

def ofText (s : String) : Path where
  size := s.utf8ByteSize
  absolute := s.toList.head? = some '/'
  names := ((s.toList.splitOn '/').map String.ofList).filter (· ≠ "")
  closed := s.toList.getLast? = some '/'

/-- The most bytes a path may have. -/
def maxSize : Nat := 4095

/-- The most bytes a name along a path may have. -/
def maxNameSize : Nat := 255

end Path

/-! ### Devices -/

/-- Files that keep nothing. -/
inductive Device
  /-- What is written vanishes. -/
  | null
  /-- There is no space for anything. -/
  | full
  /-- What is written is printed. -/
  | output
  /-- What is written is printed among the errors. -/
  | errors
deriving DecidableEq, Repr

/-- The device at a place. Nobody writes the input of the program, so that is empty. -/
def Device.at? (place : Location) : Option Device :=
  match place with
  | ["dev", "null"] | ["dev", "stdin"] => some .null
  | ["dev", "full"] => some .full
  | ["dev", "stdout"] => some .output
  | ["dev", "stderr"] => some .errors
  | _ => none

/-- The directories in the outermost one that are always there. -/
def rootDirectories : List String :=
  ["bin", "boot", "dev", "etc", "home", "lib", "media", "mnt", "opt", "proc", "root", "run", "sbin",
    "srv", "sys", "tmp", "usr", "var"]

end Memory

end Groupwise
