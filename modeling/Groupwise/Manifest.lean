import Groupwise.Digest
import Groupwise.Mode
import Groupwise.Uuid

/-!
# Manifests

A manifest describes one run: what was run, on how many records, in which batches, from which seed
the records came, and what came out. With its seed and batch size the run can be repeated.
-/

namespace Groupwise

/-- The version that manifests carry. -/
def engineVersion : String := "0.1.0"

/-- The description of a run; times are in milliseconds. -/
structure Manifest where
  id : Uuid
  version : String
  kind : RunKind
  records : Nat
  /-- Records in a batch; serial runs have no batches. -/
  batchSize : Option Nat
  batches : Nat
  workers : Nat
  /-- The seed of the records, if they were generated. -/
  seed : Option Nat
  groups : Nat
  digest : Option Hash256
  started : Nat
  finished : Nat
deriving DecidableEq, Repr

namespace Manifest

/-- The manifest of a run that starts now: a single worker, no batches, no result. -/
def start (id : Uuid) (kind : RunKind) (records now : Nat) : Manifest where
  id := id
  version := engineVersion
  kind := kind
  records := records
  batchSize := none
  batches := 0
  workers := 1
  seed := none
  groups := 0
  digest := none
  started := now
  finished := now

def withBatching (m : Manifest) (batchSize batches workers : Nat) : Manifest :=
  { m with batchSize := some batchSize, batches := batches, workers := workers }

def withSeed (m : Manifest) (seed : Option Nat) : Manifest := { m with seed := seed }

/-- The manifest of a run that is over now. -/
def finish (m : Manifest) (now groups : Nat) (digest : Option Hash256) : Manifest :=
  { m with finished := now, groups := groups, digest := digest }

/-- How long the run took; nothing if the clock was set back. -/
def duration (m : Manifest) : Nat := m.finished - m.started

end Manifest

end Groupwise
