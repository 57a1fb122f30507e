import Groupwise.Json.Reader
import Groupwise.Json.Value
import Groupwise.Stats.Accumulator
import Groupwise.Word

/-!
# Summaries as JSON

Both kinds of summaries are objects of their fields. They are read back from any order of the
fields, all of which must be there.
-/

namespace Groupwise

open Json

/-- A count that is read. -/
def readCount : Reader UInt64 := do return .ofNat (← Reader.natural wordBound)

namespace Stats

instance {V : Type} [ToValue V] : ToValue (Stats V) where
  toValue s := .object [("count", .natural s.count.toNat), ("sum", toValue s.sum),
    ("min", toValue s.min), ("max", toValue s.max)]

/-- The fields read so far. -/
structure Slots where
  count : Option UInt64 := none
  sum : Option Float := none
  min : Option Float := none
  max : Option Float := none

def Slots.finish (s : Slots) : Option (Stats Float) := do
  return ⟨← s.count, ← s.sum, ← s.min, ← s.max⟩

def fields : List (Reader.Field Slots) :=
  [⟨"count", (·.count.isSome), fun s => do return { s with count := ← readCount }⟩,
    ⟨"sum", (·.sum.isSome), fun s => do return { s with sum := ← Reader.float }⟩,
    ⟨"min", (·.min.isSome), fun s => do return { s with min := ← Reader.float }⟩,
    ⟨"max", (·.max.isSome), fun s => do return { s with max := ← Reader.float }⟩]

def reader : Reader (Stats Float) := Reader.record fields {} Slots.finish

/-- The summary that a JSON text describes. -/
def parse (text : String) : Except Fault (Stats Float) := reader.run text

end Stats

namespace Accumulator

instance {V : Type} [ToValue V] : ToValue (Accumulator V) where
  toValue a := .object [("count", .natural a.count.toNat), ("sum", toValue a.compensated.sum),
    ("compensation", toValue a.compensated.compensation), ("simple_sum", toValue a.plainSum),
    ("min", toValue a.min), ("max", toValue a.max)]

/-- The fields read so far. -/
structure Slots where
  count : Option UInt64 := none
  sum : Option Float := none
  compensation : Option Float := none
  plainSum : Option Float := none
  min : Option Float := none
  max : Option Float := none

def Slots.finish (s : Slots) : Option (Accumulator Float) := do
  return ⟨← s.count, ⟨← s.sum, ← s.compensation⟩, ← s.plainSum, ← s.min, ← s.max⟩

def fields : List (Reader.Field Slots) :=
  [⟨"count", (·.count.isSome), fun s => do return { s with count := ← readCount }⟩,
    ⟨"sum", (·.sum.isSome), fun s => do return { s with sum := ← Reader.float }⟩,
    ⟨"compensation", (·.compensation.isSome),
      fun s => do return { s with compensation := ← Reader.float }⟩,
    ⟨"simple_sum", (·.plainSum.isSome), fun s => do return { s with plainSum := ← Reader.float }⟩,
    ⟨"min", (·.min.isSome), fun s => do return { s with min := ← Reader.float }⟩,
    ⟨"max", (·.max.isSome), fun s => do return { s with max := ← Reader.float }⟩]

def reader : Reader (Accumulator Float) := Reader.record fields {} Slots.finish

/-- The accumulator that a JSON text describes. -/
def parse (text : String) : Except Fault (Accumulator Float) := reader.run text

end Accumulator

end Groupwise
