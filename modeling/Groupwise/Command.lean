import Groupwise.Command.Explain
import Groupwise.Command.Options
import Groupwise.Command.Run

/-!
# The program

A command line is read and its command carried out. The exit code is 0 if the command succeeded, 1
if it failed, 2 if there was no command to carry out, and 101 if the program was stopped.
-/

namespace Groupwise

/-- What the program can do. -/
def Command.usage : List String :=
  ["Grouped market values in serial or parallel, eager or lazy modes",
    "",
    "  generate [--size N] [--seed N] -o TABLE",
    "  run      [-i TABLE] [--size N] [--seed N] [--grouping product|account|category]",
    "           [--mode MODES] [--style STYLES] [--batch-size N] [--threads N]",
    "           [--iterations N] [--config YAML] [-o TABLE] [--manifest LOG]",
    "  explain  [--size N] [--batch-size N] [--threads N]",
    "  help"]

namespace Host

variable {m : Type → Type} [Monad m]

/-- Carry a command out. -/
def carryOut (h : Host m) : Command → Step m Unit
  | .generate size seed output => h.generate size seed output
  | .run options => do discard (h.run options)
  | .explain size batchSize threads => h.explain size batchSize threads

/-- Do what a command line says; the exit code comes out. -/
def execute (h : Host m) (args : List String) : m Nat := do
  match Command.parse args with
  | .error .help =>
    Command.usage.forM h.print
    return 0
  | .error .refused =>
    Command.usage.forM h.complain
    return 2
  | .ok command =>
    match ← (h.carryOut command).run with
    | .ok () => return 0
    | .error (.engine (.aborted cause)) =>
      h.complain cause.message
      return 101
    | .error e =>
      h.complain ("Error: " ++ e.message)
      return 1

end Host

end Groupwise
