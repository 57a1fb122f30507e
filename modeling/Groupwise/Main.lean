import Groupwise.Command
import Std.Time.DateTime.Timestamp

/-!
# The command line

The host of the program is the machine it runs on.
-/

namespace Groupwise

/-- The fault behind an error of the machine. -/
def FileFault.ofError : IO.Error → FileFault
  | .noFileOrDirectory .. | .noSuchThing .. => .notFound
  | .permissionDenied .. => .denied
  | .invalidArgument _ 36 _ => .nameTooLong
  | .resourceExhausted _ 28 _ => .noSpace
  | .inappropriateType _ code _ => if code = 20 then .notDirectory else .isDirectory
  | e => .other (toString e)

namespace Machine

/-- An action, or the fault that it ended with. -/
def guarded {α : Type} (action : IO α) : IO (Except FileFault α) :=
  try return .ok (← action) catch e => return .error (.ofError e)

def read (path : String) : IO (Except ReadFault (List UInt8)) := do
  match ← guarded (IO.FS.Handle.mk path .read) with
  | .error fault => return .error (.opening fault)
  | .ok file =>
    match ← guarded file.readBinToEnd with
    | .error fault => return .error (.reading fault)
    | .ok bytes => return .ok bytes.toList

/-- The files that were created, by their paths. -/
abbrev OpenFiles := IO.Ref (List (String × IO.FS.Handle))

def create (files : OpenFiles) (path : String) : IO (Except FileFault Unit) :=
  guarded do
    let file ← IO.FS.Handle.mk path .write
    files.modify ((path, file) :: ·)

/-- Write all bytes at once. -/
def writeThrough (file : IO.FS.Handle) (bytes : List UInt8) : IO Unit := do
  file.write ⟨bytes.toArray⟩
  file.flush

def write (files : OpenFiles) (path : String) (bytes : List UInt8) : IO (Except FileFault Unit) :=
  guarded do
    let some file := (← files.get).lookup path | return
    writeThrough file bytes

def ensure (path : String) : IO (Except FileFault Unit) :=
  guarded do discard (IO.FS.Handle.mk path .append)

def append (path : String) (bytes : List UInt8) : IO (Except FileFault Unit) :=
  guarded do writeThrough (← IO.FS.Handle.mk path .append) bytes

def now : IO Nat := do
  return (← Std.Time.Timestamp.now).toMillisecondsSinceUnixEpoch.val.toNat

def newId : IO Uuid := do
  let bytes ← IO.getRandomBytes 16
  return .ofRandom fun i => bytes.toList.getD i 0

def newSeed : IO Nat := do
  return (← IO.getRandomBytes 8).toList.foldl (fun n b => 256 * n + b.toNat) 0

/-- As many workers as there are processors in the description of the machine. -/
def workers (description : String) : WorkerPool :=
  let processors := (description.splitOn "\n").filter fun line => line.startsWith "processor"
  (WorkerPool.ofThreads? processors.length).getD ⟨1, by decide⟩

/-- The machine with the given variables and description. -/
def host (settings : List (String × Option String)) (description : String) (files : OpenFiles) :
    Host IO where
  lookup name := (settings.lookup name).join
  machine := workers description
  overflow := .wraps
  read := read
  create := create files
  write := write files
  ensure := ensure
  append := append
  print line := IO.println line
  complain line := IO.eprintln line
  now := now
  newId := newId
  newSeed := newSeed
  schedule _ := .inOrder default

end Machine

end Groupwise

open Groupwise in
def main (args : List String) : IO UInt32 := do
  let settings ← Overrides.variableNames.mapM fun name => do return (name, ← IO.getEnv name)
  let description ← try IO.FS.readFile "/proc/cpuinfo" catch _ => pure ""
  let files ← IO.mkRef []
  let code ← (Machine.host settings description files).execute args
  return code.toUInt32
