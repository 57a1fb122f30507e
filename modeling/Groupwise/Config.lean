import Groupwise.Decimal.Style
import Groupwise.Number
import Groupwise.Text.Digits

/-!
# Configuration

A configuration is layered, from the lowest to the highest priority: the defaults, the variables of
the environment, a document of overrides, and the options of the command line. A layer is an
`Overrides` value that has only some of the fields; `Config.apply` puts it on top.
-/

namespace Groupwise

/-- The settings of a run. -/
structure Config (V : Type) where
  /-- Records in a batch; derived from the input if absent. -/
  batchSize : Option Nat
  /-- Workers of the pool; as many as the machine has cores if absent. -/
  parallelism : Option Nat
  shutdownTimeoutMs : Nat
  /-- How much the sums of two results may differ. -/
  sumTolerance : V
  /-- Positions to generate. -/
  datasetSize : Nat
  /-- The seed of the generator; drawn at random if absent. -/
  seed : Option Nat
  lockShards : Nat
deriving Repr, DecidableEq

/-- Some fields of a configuration. -/
structure Overrides (V : Type) where
  batchSize : Option Nat := none
  parallelism : Option Nat := none
  shutdownTimeoutMs : Option Nat := none
  sumTolerance : Option V := none
  datasetSize : Option Nat := none
  seed : Option Nat := none
  lockShards : Option Nat := none
deriving Repr, DecidableEq

/-- Why a configuration cannot be used. -/
inductive ConfigError (V : Type)
  | noBatchSize
  | noParallelism
  | noLockShards
  | badTolerance (tolerance : V)
deriving Repr, DecidableEq

namespace ConfigError

/-- The words for a useless configuration. -/
def message {V : Type} (showTolerance : V → String) : ConfigError V → String
  | noBatchSize => "Invalid configuration: batch_size must be at least 1"
  | noParallelism => "Invalid configuration: parallelism must be at least 1"
  | noLockShards => "Invalid configuration: lock_shards must be at least 1"
  | badTolerance x =>
    "Invalid configuration: sum_tolerance must be a non-negative number, got " ++ showTolerance x

end ConfigError

namespace Config

variable {V : Type}

/-- The lowest layer. -/
def default : Config Float where
  batchSize := some 10000
  parallelism := none
  shutdownTimeoutMs := 1000
  sumTolerance := 1e-4
  datasetSize := 1000000
  seed := none
  lockShards := 64

/-- The configuration with the fields of `o` in place of its own. -/
def apply (c : Config V) (o : Overrides V) : Config V where
  batchSize := o.batchSize.or c.batchSize
  parallelism := o.parallelism.or c.parallelism
  shutdownTimeoutMs := o.shutdownTimeoutMs.getD c.shutdownTimeoutMs
  sumTolerance := o.sumTolerance.getD c.sumTolerance
  datasetSize := o.datasetSize.getD c.datasetSize
  seed := o.seed.or c.seed
  lockShards := o.lockShards.getD c.lockShards

/-- Check that a configuration can be used; the first fault in this order is reported. -/
def validate [Number V] (c : Config V) : Except (ConfigError V) Unit :=
  if c.batchSize = some 0 then .error .noBatchSize
  else if c.parallelism = some 0 then .error .noParallelism
  else if c.lockShards = 0 then .error .noLockShards
  else if Number.isNaN c.sumTolerance || Number.lt c.sumTolerance Number.zero then
    .error (.badTolerance c.sumTolerance)
  else .ok ()

end Config

end Groupwise
