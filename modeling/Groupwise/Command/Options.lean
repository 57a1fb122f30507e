import Groupwise.Decimal.Literal
import Groupwise.Mode
import Groupwise.Word

/-!
# Command lines

A command line is the name of a command and its options. An option takes a value, which is the next
argument or is attached to it; it is given once at most. A command line that is not understood, and
a request for help, end before any command begins.
-/

namespace Groupwise

/-! ### Commands -/

/-- What a run is asked to do. -/
structure RunOptions where
  /-- The table of positions; they are generated if there is none. -/
  input : Option String
  size : Option Nat
  seed : Option Nat
  grouping : Grouping
  mode : String
  style : String
  batchSize : Option Nat
  threads : Option Nat
  iterations : Nat
  /-- The document of overrides. -/
  config : Option String
  /-- The table of statistics to write. -/
  output : Option String
  /-- The log of manifests to append to. -/
  manifest : Option String
deriving Repr

/-- What the program can do. -/
inductive Command
  /-- Write a table of generated positions. -/
  | generate (size seed : Option Nat) (output : String)
  /-- Aggregate positions in several modes and compare the results. -/
  | run (options : RunOptions)
  /-- Show the batches of an input. -/
  | explain (size batchSize threads : Option Nat)
deriving Repr

/-- Why there is no command. -/
inductive NoCommand
  | help
  | refused
deriving DecidableEq, Repr

/-! ### Options -/

inductive OptionName
  | size
  | seed
  | output
  | input
  | grouping
  | mode
  | style
  | batchSize
  | threads
  | iterations
  | config
  | manifest
deriving DecidableEq, Repr

namespace OptionName

def long : OptionName → String
  | size => "size"
  | seed => "seed"
  | output => "output"
  | input => "input"
  | grouping => "grouping"
  | mode => "mode"
  | style => "style"
  | batchSize => "batch-size"
  | threads => "threads"
  | iterations => "iterations"
  | config => "config"
  | manifest => "manifest"

def short? : OptionName → Option Char
  | output => some 'o'
  | input => some 'i'
  | _ => none

/-- Whether an option can have this value. -/
def accepts (value : String) : OptionName → Bool
  | size | seed | batchSize | threads | iterations => (Literal.nat? wordBound value).isSome
  | grouping => (Grouping.parse value).isOk
  | mode | style => true
  | output | input | config | manifest => value ≠ ""

end OptionName

/-- An argument by its form. -/
inductive Argument
  /-- Behind this one there are no options any more. -/
  | lastOption
  | long (name : List Char) (value : Option (List Char))
  | short (letters : List Char)
  | plain (text : String)

/-- The form of an argument. A dash alone is no option. -/
def Argument.ofText (s : String) : Argument :=
  match s.toList with
  | ['-', '-'] => lastOption
  | '-' :: '-' :: cs =>
    match cs.dropWhile (· ≠ '=') with
    | [] => long cs none
    | _ :: value => long (cs.takeWhile (· ≠ '=')) (some value)
  | '-' :: c :: cs => short (c :: cs)
  | _ => plain s

/-- The values of options. -/
abbrev Settings := List (OptionName × String)

namespace Settings

/-- One more option. -/
def set (o : OptionName) (value : String) (s : Settings) : Except NoCommand Settings :=
  if (s.lookup o).isNone && o.accepts value then .ok ((o, value) :: s) else .error .refused

/-- Read options; `pending` is the one whose value is next. -/
def read (known : List OptionName) (pending : Option OptionName) (s : Settings) :
    List String → Except NoCommand Settings
  | [] => if pending.isNone then .ok s else .error .refused
  | a :: rest =>
    match Argument.ofText a, pending with
    | .plain value, some o => do read known none (← s.set o value) rest
    | .plain _, none => .error .refused
    | _, some _ => .error .refused
    | .lastOption, none => if rest = [] then .ok s else .error .refused
    | .long name value, none =>
      if name = "help".toList then .error (if value.isNone then .help else .refused)
      else
        match known.find? fun o => o.long.toList = name, value with
        | none, _ => .error .refused
        | some o, none => read known (some o) s rest
        | some o, some v => do read known none (← s.set o (String.ofList v)) rest
    | .short letters, none =>
      match letters with
      | [] => .error .refused
      | 'h' :: _ => .error .help
      | c :: value =>
        match known.find? fun o => o.short? = some c, value with
        | none, _ => .error .refused
        | some o, [] => read known (some o) s rest
        | some o, '=' :: v => do read known none (← s.set o (String.ofList v)) rest
        | some o, v => do read known none (← s.set o (String.ofList v)) rest

/-- The number that an option was set to. -/
def number? (s : Settings) (o : OptionName) : Option Nat :=
  (s.lookup o).bind (Literal.nat? wordBound)

end Settings

/-! ### Command lines -/

namespace Command

open OptionName

/-- The options of a command. -/
def known (name : String) : Option (List OptionName) :=
  if name = "generate" then some [size, seed, output]
  else if name = "run" then
    some [input, size, seed, grouping, mode, style, batchSize, threads, iterations, config, output,
      manifest]
  else if name = "explain" then some [size, batchSize, threads]
  else none

/-- What a run is asked to do by its options. -/
def runOptions (s : Settings) : RunOptions where
  input := s.lookup input
  size := s.number? size
  seed := s.number? seed
  grouping := ((s.lookup grouping).bind fun v => (Grouping.parse v).toOption).getD .product
  mode := (s.lookup mode).getD "all"
  style := (s.lookup style).getD "all"
  batchSize := s.number? batchSize
  threads := s.number? threads
  iterations := (s.number? iterations).getD 1
  config := s.lookup config
  output := s.lookup output
  manifest := s.lookup manifest

/-- The command of the given name and options. -/
def ofSettings (name : String) (s : Settings) : Except NoCommand Command :=
  if name = "generate" then
    match s.lookup output with
    | some path => .ok (generate (s.number? size) (s.number? seed) path)
    | none => .error .refused
  else if name = "run" then .ok (run (runOptions s))
  else .ok (explain (s.number? size) (s.number? batchSize) (s.number? threads))

/-- What is asked for help about is a command, or nothing. -/
def helps : List String → Bool
  | [] => true
  | [name] => (known name).isSome || name = "help"
  | _ => false

/-- The command of a command line. -/
def parse : List String → Except NoCommand Command
  | [] => .error .refused
  | name :: args =>
    match known name with
    | some options => do ofSettings name (← Settings.read options none [] args)
    | none =>
      if name = "help" then .error (if helps args then .help else .refused)
      else
        match Argument.ofText name with
        | .long word none => .error (if word = "help".toList then .help else .refused)
        | .short ('h' :: _) => .error .help
        | _ => .error .refused

end Command

end Groupwise
