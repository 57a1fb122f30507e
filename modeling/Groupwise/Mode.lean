import Groupwise.Position
import Groupwise.Text.Blank

/-!
# Modes of execution and styles of accumulation

A run is serial or parallel, eager or lazy, and it accumulates in one of three styles. All of
these have names, which are read leniently: blanks around them and their case do not matter, and
modes and styles may be written with underscores.
-/

namespace Groupwise

/-- A text that names nothing of its kind. -/
structure NameError where
  kind : String
  value : String
deriving DecidableEq, Repr

def NameError.message (e : NameError) : String := "Unknown " ++ e.kind ++ " '" ++ e.value ++ "'"

/-- A name without blanks around it, in lower case. -/
def normalName (s : String) : String := String.ofList ((Text.trim s.toList).map Char.toLower)

/-- The same with dashes for underscores. -/
def dashedName (s : String) : String :=
  String.ofList ((normalName s).toList.map fun c => if c = '_' then '-' else c)

/-- How a run is executed. -/
inductive Mode
  | serialEager
  | serialLazy
  | parallelEager
  | parallelLazy
deriving DecidableEq, Repr

namespace Mode

def all : List Mode := [serialEager, serialLazy, parallelEager, parallelLazy]

def isParallel : Mode → Bool
  | parallelEager | parallelLazy => true
  | serialEager | serialLazy => false

def isLazy : Mode → Bool
  | serialLazy | parallelLazy => true
  | serialEager | parallelEager => false

def name : Mode → String
  | serialEager => "serial-eager"
  | serialLazy => "serial-lazy"
  | parallelEager => "parallel-eager"
  | parallelLazy => "parallel-lazy"

/-- The mode of exactly this name. -/
def ofName? (s : String) : Option Mode := all.find? (·.name == s)

def parse (s : String) : Except NameError Mode :=
  match ofName? (dashedName s) with
  | some mode => .ok mode
  | none => .error ⟨"execution mode", s⟩

end Mode

/-- How the values of a key are accumulated. -/
inductive Style
  /-- Each record makes a new value. -/
  | immutable
  /-- One accumulator for each key, shared by all workers. -/
  | inPlace
  /-- One accumulator for each key and batch, joined in the end. -/
  | inPlaceReduce
deriving DecidableEq, Repr

namespace Style

def all : List Style := [immutable, inPlace, inPlaceReduce]

def isInPlace : Style → Bool
  | immutable => false
  | inPlace | inPlaceReduce => true

def name : Style → String
  | immutable => "immutable"
  | inPlace => "in-place"
  | inPlaceReduce => "in-place-reduce"

/-- The style of exactly this name. -/
def ofName? (s : String) : Option Style := all.find? (·.name == s)

/-- The other names of styles. -/
def ofAlias? (s : String) : Option Style :=
  if s = "inplace" ∨ s = "mutable" then some inPlace
  else if s = "inplace-reduce" ∨ s = "reduce" then some inPlaceReduce
  else none

def parse (s : String) : Except NameError Style :=
  match (ofName? (dashedName s)).or (ofAlias? (dashedName s)) with
  | some style => .ok style
  | none => .error ⟨"accumulation style", s⟩

end Style

namespace Grouping

def all : List Grouping := [product, account, category]

def name : Grouping → String
  | product => "product"
  | account => "account"
  | category => "category"

/-- The grouping of exactly this name. -/
def ofName? (s : String) : Option Grouping := all.find? (·.name == s)

/-- Unlike modes and styles, an unknown grouping is reported by its normal name. -/
def parse (s : String) : Except NameError Grouping :=
  match ofName? (normalName s) with
  | some grouping => .ok grouping
  | none => .error ⟨"grouping", normalName s⟩

end Grouping

/-- Which result a run has: how it is executed, how it accumulates and what it groups by. -/
structure RunKind where
  mode : Mode
  style : Style
  grouping : Grouping
deriving DecidableEq, Repr

end Groupwise
