import Groupwise.Command.Host
import Groupwise.Command.Memory.Path
import Groupwise.Text.Utf8

/-!
# A host in memory

Its files are only kept in memory, and what is printed is kept as well. A directory is there if
there is a file in it or the program. The clock stands still, and the number that is drawn as a seed
is fixed, so a command has the same effect each time it is run.
-/

namespace Groupwise

/-- Files, and the lines that were printed, the last one first. -/
structure Memory where
  /-- The directory of the program. -/
  home : Location
  files : List (Location × List UInt8)
  /-- How far the files that were created have been written. -/
  written : List (Location × Nat)
  output : List String
  errors : List String
deriving Repr

namespace Memory

/-! ### Devices -/

/-- What bytes look like when they are printed as lines. -/
def printed (bytes : List UInt8) : List String :=
  let bytes := if bytes.getLast? = some 0x0A then bytes.dropLast else bytes
  if bytes = [] then [] else [(Utf8.decode? bytes).getD ""]

/-- The memory after bytes were written to a device. -/
def Device.take (bytes : List UInt8) (w : Memory) : Device → Except FileFault Memory
  | null => .ok w
  | full => if bytes = [] then .ok w else .error .noSpace
  | output => .ok { w with output := printed bytes ++ w.output }
  | errors => .ok { w with errors := printed bytes ++ w.errors }

/-! ### Files and directories -/

/-- Files in the directory of the program, whose names may be paths themselves. -/
def ofFiles (home : Location) (files : List (String × List UInt8)) : Memory where
  home := home
  files := files.map fun f => (home ++ (Path.ofText f.1).names, f.2)
  written := []
  output := []
  errors := []

/-- The memory with other bytes in a file. -/
def put (w : Memory) (place : Location) (bytes : List UInt8) : Memory :=
  { w with files := (place, bytes) :: w.files.filter (·.1 ≠ place) }

/-- Whether there is a directory. -/
def isDirectory (w : Memory) (place : Location) : Bool :=
  place.isPrefixOf w.home || rootDirectories.any (place = [·]) ||
    w.files.any fun f => place ≠ f.1 && place.isPrefixOf f.1

/-- What a name or a path leads to. -/
inductive Entry
  | device (d : Device)
  | file (place : Location) (bytes : List UInt8)
  | directory (place : Location)
  | missing (place : Location)

/-- The directory that is entered. -/
def Entry.enter : Entry → Except FileFault Location
  | device _ | file _ _ => .error .notDirectory
  | directory place => .ok place
  | missing _ => .error .notFound

/-- What a name in a directory leads to. A dot leads to the directory itself and two of them to the
one around it. -/
def entry (w : Memory) (place : Location) (name : String) : Except FileFault Entry :=
  if name = "." then .ok (.directory place)
  else if name = ".." then .ok (.directory place.dropLast)
  else if Path.maxNameSize < name.utf8ByteSize then .error .nameTooLong
  else
    let next := place ++ [name]
    match Device.at? next, w.files.lookup next with
    | some d, _ => .ok (.device d)
    | none, some bytes => .ok (.file next bytes)
    | none, none => .ok (if w.isDirectory next then .directory next else .missing next)

/-- The directory that all names along a path but the last lead to. -/
def around (w : Memory) (p : Path) : Except FileFault Location :=
  if Path.maxSize < p.size then .error .nameTooLong
  else
    p.names.dropLast.foldlM (fun place name => do (← w.entry place name).enter)
      (if p.absolute then [] else w.home)

/-- What the last name of a path leads to in the directory around it. -/
def last (w : Memory) (p : Path) (place : Location) : Except FileFault Entry :=
  match p.names.getLast? with
  | none => .ok (.directory place)
  | some name => w.entry place name

/-! ### Reading and writing -/

/-- The bytes of the file at a path. -/
def bytes (w : Memory) (path : String) : Except ReadFault (List UInt8) := do
  let p := Path.ofText path
  let bytes ← match ← ((w.around p).bind (w.last p)).mapError .opening with
    | .directory _ => .error (.reading .isDirectory)
    | .missing _ => .error (.opening .notFound)
    | .file _ bytes => .ok bytes
    | .device _ => .ok []
  if p.closed then .error (.opening .notDirectory) else .ok bytes

/-- Where bytes go that are written to a path. -/
def target (w : Memory) (path : String) : Except FileFault (Device ⊕ Location) := do
  let p := Path.ofText path
  let place ← w.around p
  if p.closed then .error .isDirectory
  else
    match ← w.last p place with
    | .directory _ => .error .isDirectory
    | .missing place | .file place _ => .ok (.inr place)
    | .device d => .ok (.inl d)

/-- The bytes of the file at a place, which has none unless it is there. -/
def bytesAt (w : Memory) (place : Location) : List UInt8 := (w.files.lookup place).getD []

/-- An empty file, of which nothing has been written. -/
def create (place : Location) (w : Memory) : Memory :=
  { w.put place [] with written := (place, 0) :: w.written.filter (·.1 ≠ place) }

/-- The file with more bytes behind those written before, in place of what is there. -/
def overwrite (bytes : List UInt8) (place : Location) (w : Memory) : Memory :=
  let start := (w.written.lookup place).getD 0
  let stop := start + bytes.length
  let old := w.bytesAt place
  { w.put place (old.take start ++ bytes ++ old.drop stop) with
    written := (place, stop) :: w.written.filter (·.1 ≠ place) }

/-- The file with more bytes at its end. -/
def append (bytes : List UInt8) (place : Location) (w : Memory) : Memory :=
  w.put place (w.bytesAt place ++ bytes)

/-- Write bytes to a path, which is done by `f` unless it leads to a device. -/
def write (path : String) (bytes : List UInt8) (f : Location → Memory → Memory) :
    StateM Memory (Except FileFault Unit) := do
  let w ← get
  match w.target path with
  | .error fault => return .error fault
  | .ok (.inr place) =>
    set (f place w)
    return .ok ()
  | .ok (.inl d) =>
    match d.take bytes w with
    | .error fault => return .error fault
    | .ok w =>
      set w
      return .ok ()

/-- The host with the given environment and workers that draws `seed`. -/
def host (lookup : String → Option String) (machine : WorkerPool) (seed : Nat) :
    Host (StateM Memory) where
  lookup := lookup
  machine := machine
  overflow := .wraps
  read path := return (← get).bytes path
  create path := write path [] create
  write path bytes := write path bytes (overwrite bytes)
  ensure path := write path [] (append [])
  append path bytes := write path bytes (append bytes)
  print line := modify fun w => { w with output := line :: w.output }
  complain line := modify fun w => { w with errors := line :: w.errors }
  now := return 0
  newId := return .zero
  newSeed := return seed
  schedule _ := .inOrder default

end Memory

end Groupwise
