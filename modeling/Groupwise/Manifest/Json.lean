import Groupwise.Manifest
import Groupwise.Mode.Json
import Groupwise.Stats.Json
import Groupwise.Word

/-!
# Manifests as JSON

A manifest is an object of its fields, `null` for what is absent. When it is read, what may be
absent may also be left out.
-/

namespace Groupwise

open Json

namespace Manifest

instance : ToValue Manifest where
  toValue m := .object [("id", toValue m.id), ("engine_version", .string m.version),
    ("mode", toValue m.kind.mode), ("style", toValue m.kind.style),
    ("grouping", toValue m.kind.grouping), ("records", .natural m.records),
    ("batch_size", toValue m.batchSize), ("batches", .natural m.batches),
    ("workers", .natural m.workers), ("seed", toValue m.seed), ("groups", .natural m.groups),
    ("result_digest", toValue m.digest), ("started_ms", .natural m.started),
    ("finished_ms", .natural m.finished)]

/-- The fields read so far. -/
structure Slots where
  id : Option Uuid := none
  version : Option String := none
  mode : Option Mode := none
  style : Option Style := none
  grouping : Option Grouping := none
  records : Option Nat := none
  batchSize : Option (Option Nat) := none
  batches : Option Nat := none
  workers : Option Nat := none
  seed : Option (Option Nat) := none
  groups : Option Nat := none
  digest : Option (Option Hash256) := none
  started : Option Nat := none
  finished : Option Nat := none

def Slots.finish (s : Slots) : Option Manifest := do
  return ⟨← s.id, ← s.version, ⟨← s.mode, ← s.style, ← s.grouping⟩, ← s.records,
    s.batchSize.getD none, ← s.batches, ← s.workers, s.seed.getD none, ← s.groups,
    s.digest.getD none, ← s.started, ← s.finished⟩

/-- A counter, size or time. -/
def word : Reader Nat := Reader.natural wordBound

def fields : List (Reader.Field Slots) :=
  [⟨"id", (·.id.isSome), fun s => do return { s with id := ← Uuid.reader }⟩,
    ⟨"engine_version", (·.version.isSome),
      fun s => do return { s with version := ← Reader.string }⟩,
    ⟨"mode", (·.mode.isSome), fun s => do return { s with mode := ← Mode.reader }⟩,
    ⟨"style", (·.style.isSome), fun s => do return { s with style := ← Style.reader }⟩,
    ⟨"grouping", (·.grouping.isSome), fun s => do return { s with grouping := ← Grouping.reader }⟩,
    ⟨"records", (·.records.isSome), fun s => do return { s with records := ← word }⟩,
    ⟨"batch_size", (·.batchSize.isSome),
      fun s => do return { s with batchSize := some (← Reader.optional word) }⟩,
    ⟨"batches", (·.batches.isSome), fun s => do return { s with batches := ← word }⟩,
    ⟨"workers", (·.workers.isSome), fun s => do return { s with workers := ← word }⟩,
    ⟨"seed", (·.seed.isSome), fun s => do return { s with seed := some (← Reader.optional word) }⟩,
    ⟨"groups", (·.groups.isSome), fun s => do return { s with groups := ← word }⟩,
    ⟨"result_digest", (·.digest.isSome),
      fun s => do return { s with digest := some (← Reader.optional Hash256.reader) }⟩,
    ⟨"started_ms", (·.started.isSome), fun s => do return { s with started := ← word }⟩,
    ⟨"finished_ms", (·.finished.isSome), fun s => do return { s with finished := ← word }⟩]

def reader : Reader Manifest := Reader.record fields {} Slots.finish

/-- The manifest that a JSON text describes. -/
def parse (text : String) : Except Fault Manifest := reader.run text

end Manifest

end Groupwise
