import Groupwise.Command.Host
import Groupwise.Position.Csv

/-!
# What can go wrong in a command
-/

namespace Groupwise

/-- Why a command was not carried out. -/
inductive CommandError
  /-- The document of overrides cannot be read. -/
  | document (cause : FileFault)
  /-- The document of overrides is no text. -/
  | documentNotText
  /-- The document of overrides has no overrides in it. -/
  | badDocument
  | config (cause : ConfigError Float)
  | name (cause : NameError)
  /-- A file cannot be opened or written. -/
  | file (cause : FileFault)
  /-- A table cannot be read or created. -/
  | table (cause : FileFault)
  | positions (cause : PositionTableError)
  | engine (cause : EngineError Float)

def CommandError.message : CommandError → String
  | document cause => cause.message
  | documentNotText => "stream did not contain valid UTF-8"
  | badDocument => "Invalid configuration: no mapping of settings to their values"
  | config cause => cause.message Decimal.plain.render
  | name cause => cause.message
  | file cause => "io: " ++ cause.message
  | table cause => "csv: " ++ cause.message
  | positions cause => cause.message
  | engine cause => cause.message Decimal.plain.render

namespace Host

/-- A step of a command. -/
abbrev Step (m : Type → Type) (α : Type) : Type := ExceptT CommandError m α

variable {m : Type → Type} [Monad m]

/-- A part of a command whose errors are among those of commands. -/
def attempt {ε α : Type} (wrap : ε → CommandError) (run : m (Except ε α)) : Step m α :=
  ExceptT.adapt wrap (ExceptT.mk run)

/-- A computation whose errors are among those of commands. -/
def check {ε α : Type} (wrap : ε → CommandError) (result : Except ε α) : Step m α :=
  attempt wrap (pure result)

/-- As many bytes of a table are kept back until the rows at hand are complete. -/
def tableBuffer : Nat := 8192

/-- Write rows of a table. They reach the file early if they are too many to be kept back, and then
the fault is one of the table. -/
def writeTable (h : Host m) (path : String) (rows : List UInt8) : Step m Unit :=
  attempt (if tableBuffer < rows.length then .table else .file) (h.write path rows)

/-- Print lines. -/
def printLines (h : Host m) (lines : List String) : Step m Unit :=
  lines.forM fun line => h.print line

end Host

end Groupwise
