import Groupwise.Config
import Groupwise.Decimal.Literal
import Groupwise.Word
import Groupwise.Yaml.Mapping

/-!
# Documents of overrides

Overrides are written as a YAML mapping of some fields to numbers. A field with nothing or `null`
behind it is not overridden. Unknown and repeated fields are refused, and so are values that are
not numbers; a number between quotes is none.
-/

namespace Groupwise

open Yaml

namespace Yaml.Scalar

/-- The words for no value. -/
def isNullWord (text : List Char) : Bool :=
  ["null", "Null", "NULL", "~"].any (·.toList = text)

/-- Whether a scalar is no value. One that is tagged so has to be written so. -/
def isNull? (s : Scalar) : Option Bool :=
  if s.style ≠ .plain then some false
  else
    match s.tag with
    | none => some (s.text = [] || isNullWord s.text)
    | some t =>
      if t ≠ coreTag "null" then some false else if isNullWord s.text then some true else none

/-- The text of a scalar that may be a number; a block has to be tagged as one. -/
def numberText? (tag : String) (s : Scalar) : Option (List Char) :=
  match s.style with
  | .plain => some s.text
  | .literal => if s.tag = some (coreTag tag) then some s.text else none
  | .quoted | .folded => none

/-- A number of digits in the base that is written in front, which is ten unless said so. A decimal
number has no zeros in front. -/
def digits? (bound : Nat) (cs : List Char) : Option Nat :=
  match cs with
  | ['0'] => some 0
  | '0' :: 'x' :: ds => unsigned? 16 ds
  | '0' :: 'o' :: ds => unsigned? 8 ds
  | '0' :: 'b' :: ds => unsigned? 2 ds
  | '0' :: _ => none
  | ds => unsigned? 10 ds
where
  unsigned? (base : Nat) (ds : List Char) : Option Nat :=
    if ds.head? = some '+' then none else (Literal.nat base bound ds).toOption

/-- A natural number below `bound`, an optional plus sign before it. -/
def natural? (bound : Nat) (s : Scalar) : Option Nat := do
  match ← s.numberText? "int" with
  | '+' :: cs => digits? bound cs
  | cs => digits? bound cs

/-- A finite decimal float or one of the words for the others. -/
def floatText? (cs : List Char) : Option Float := do
  let word (ws : List String) (t : List Char) : Bool := ws.any (·.toList = t)
  let infinities := [".inf", ".Inf", ".INF"]
  let positive := if cs.head? = some '+' then cs.tail else cs
  if word infinities positive then return 1.0 / 0.0
  else if word (infinities.map ("-" ++ ·)) cs then return -1.0 / 0.0
  else if word [".nan", ".NaN", ".NAN"] cs then return 0.0 / 0.0
  else if cs.head? = some '+' ∧ (positive.head? = some '+' ∨ positive.head? = some '-') then none
  else
    match Literal.float positive with
    | .ok x => if x.isFinite then return x else none
    | .error _ => none

def float? (s : Scalar) : Option Float := do floatText? (← s.numberText? "float")

end Yaml.Scalar

namespace Overrides

/-- The fields of a document. -/
def names : List String :=
  ["batch_size", "parallelism", "shutdown_timeout_ms", "sum_tolerance", "dataset_size", "seed",
    "lock_shards"]

/-- The value of a field, if there is one. -/
def setting? {α : Type} (entries : List (Scalar × Scalar)) (name : String)
    (read : Scalar → Option α) : Option (Option α) :=
  match entries.find? fun e => e.1.text = name.toList with
  | none => some none
  | some (_, s) => do if ← s.isNull? then return none else return some (← read s)

/-- The overrides that a document consists of. -/
def ofYaml? (text : String) : Option (Overrides Float) := do
  let entries ← mapping? text
  let keys := entries.map (·.1.text)
  if keys.Nodup ∧ keys.all fun k => names.any (·.toList = k) then
    let word := Scalar.natural? wordBound
    return { batchSize := ← setting? entries "batch_size" word
             parallelism := ← setting? entries "parallelism" word
             shutdownTimeoutMs := ← setting? entries "shutdown_timeout_ms" word
             sumTolerance := ← setting? entries "sum_tolerance" Scalar.float?
             datasetSize := ← setting? entries "dataset_size" word
             seed := ← setting? entries "seed" word
             lockShards := ← setting? entries "lock_shards" word }
  else none

end Overrides

end Groupwise
