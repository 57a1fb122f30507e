import Groupwise.Engine

/-!
# What commands ask of the world

Commands read and write files, print lines, look at the clock and draw random numbers. A `Host`
does this for them in a monad, so that the same command runs on a machine as well as on files that
are only kept in memory.
-/

namespace Groupwise

/-- Why a file cannot be used. -/
inductive FileFault
  | notFound
  | denied
  | notDirectory
  | isDirectory
  | nameTooLong
  | noSpace
  | other (reason : String)
deriving DecidableEq, Repr

def FileFault.message : FileFault → String
  | notFound => "No such file or directory (os error 2)"
  | denied => "Permission denied (os error 13)"
  | notDirectory => "Not a directory (os error 20)"
  | isDirectory => "Is a directory (os error 21)"
  | nameTooLong => "File name too long (os error 36)"
  | noSpace => "No space left on device (os error 28)"
  | other reason => reason

/-- Why a file cannot be read. A directory can be opened, but it has no bytes. -/
inductive ReadFault
  | opening (cause : FileFault)
  | reading (cause : FileFault)
deriving DecidableEq, Repr

def ReadFault.cause : ReadFault → FileFault
  | opening cause | reading cause => cause

/-- The world of a command. -/
structure Host (m : Type → Type) where
  /-- The variables of the environment. -/
  lookup : String → Option String
  /-- As many workers as the machine has cores. -/
  machine : WorkerPool
  /-- What the program does at an overflow. -/
  overflow : Overflow
  /-- The bytes of a file. -/
  read : String → m (Except ReadFault (List UInt8))
  /-- Make a file empty, or create it, so that it can be written from its front on. -/
  create : String → m (Except FileFault Unit)
  /-- Write bytes into a file that was created, behind those that were written before. -/
  write : String → List UInt8 → m (Except FileFault Unit)
  /-- Create a file unless it is there. -/
  ensure : String → m (Except FileFault Unit)
  /-- Write bytes at the end of a file, whoever wrote what is there. -/
  append : String → List UInt8 → m (Except FileFault Unit)
  /-- Print a line. -/
  print : String → m Unit
  /-- Print a line for errors. -/
  complain : String → m Unit
  /-- The time in milliseconds. -/
  now : m Nat
  newId : m Uuid
  newSeed : m Nat
  /-- What the workers do in the run of the given identifier. -/
  schedule : Uuid → Schedule (GroupKey Float)

end Groupwise
