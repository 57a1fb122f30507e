import Groupwise.Config
import Groupwise.Stats.Json
import Groupwise.Word

/-!
# Configurations as JSON

A configuration is an object of its fields, `null` for what is not set. When it is read, what may
be unset may also be left out.
-/

namespace Groupwise

open Json

namespace Config

instance {V : Type} [ToValue V] : ToValue (Config V) where
  toValue c := .object [("batch_size", toValue c.batchSize), ("parallelism", toValue c.parallelism),
    ("shutdown_timeout_ms", .natural c.shutdownTimeoutMs),
    ("sum_tolerance", toValue c.sumTolerance),
    ("dataset_size", .natural c.datasetSize), ("seed", toValue c.seed),
    ("lock_shards", .natural c.lockShards)]

/-- The fields read so far. -/
structure Slots where
  batchSize : Option (Option Nat) := none
  parallelism : Option (Option Nat) := none
  shutdownTimeoutMs : Option Nat := none
  sumTolerance : Option Float := none
  datasetSize : Option Nat := none
  seed : Option (Option Nat) := none
  lockShards : Option Nat := none

def Slots.finish (s : Slots) : Option (Config Float) := do
  return ⟨s.batchSize.getD none, s.parallelism.getD none, ← s.shutdownTimeoutMs, ← s.sumTolerance,
    ← s.datasetSize, s.seed.getD none, ← s.lockShards⟩

/-- A size or time. -/
def word : Reader Nat := Reader.natural wordBound

def fields : List (Reader.Field Slots) :=
  [⟨"batch_size", (·.batchSize.isSome),
      fun s => do return { s with batchSize := some (← Reader.optional word) }⟩,
    ⟨"parallelism", (·.parallelism.isSome),
      fun s => do return { s with parallelism := some (← Reader.optional word) }⟩,
    ⟨"shutdown_timeout_ms", (·.shutdownTimeoutMs.isSome),
      fun s => do return { s with shutdownTimeoutMs := ← word }⟩,
    ⟨"sum_tolerance", (·.sumTolerance.isSome),
      fun s => do return { s with sumTolerance := ← Reader.float }⟩,
    ⟨"dataset_size", (·.datasetSize.isSome), fun s => do return { s with datasetSize := ← word }⟩,
    ⟨"seed", (·.seed.isSome), fun s => do return { s with seed := some (← Reader.optional word) }⟩,
    ⟨"lock_shards", (·.lockShards.isSome), fun s => do return { s with lockShards := ← word }⟩]

def reader : Reader (Config Float) := Reader.record fields {} Slots.finish

/-- The configuration that a JSON text describes. -/
def parse (text : String) : Except Fault (Config Float) := reader.run text

end Config

end Groupwise
