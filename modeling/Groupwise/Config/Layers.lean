import Groupwise.Config
import Groupwise.Decimal.Literal
import Groupwise.Word

/-!
# The layers of a configuration

From the lowest to the highest priority: defaults, environment, document, command line. Each field
has a variable in the environment. A variable whose text is no number for its field is as good as
unset.
-/

namespace Groupwise

namespace Overrides

/-- The variables of the fields. -/
def variableNames : List String :=
  ["AGGBY_BATCH_SIZE", "AGGBY_PARALLELISM", "AGGBY_SHUTDOWN_TIMEOUT_MS", "AGGBY_SUM_TOLERANCE",
    "AGGBY_DATASET_SIZE", "AGGBY_SEED", "AGGBY_LOCK_SHARDS"]

/-- The overrides that the variables of an environment make. -/
def ofEnvironment (lookup : String → Option String) : Overrides Float :=
  let word (name : String) : Option Nat := (lookup name).bind (Literal.nat? wordBound)
  { batchSize := word "AGGBY_BATCH_SIZE"
    parallelism := word "AGGBY_PARALLELISM"
    shutdownTimeoutMs := word "AGGBY_SHUTDOWN_TIMEOUT_MS"
    sumTolerance := (lookup "AGGBY_SUM_TOLERANCE").bind Literal.float?
    datasetSize := word "AGGBY_DATASET_SIZE"
    seed := word "AGGBY_SEED"
    lockShards := word "AGGBY_LOCK_SHARDS" }

end Overrides

/-- The defaults under the variables of an environment. -/
def Config.ofEnvironment (lookup : String → Option String) : Config Float :=
  Config.default.apply (.ofEnvironment lookup)

/-- The options of a command line that override a configuration. -/
def Overrides.ofOptions {V : Type} (batchSize threads size seed : Option Nat) : Overrides V :=
  { batchSize := batchSize, parallelism := threads, datasetSize := size, seed := seed }

/-- The configuration of all layers. -/
def Config.layered (lookup : String → Option String) (document : Option (Overrides Float))
    (options : Overrides Float) : Config Float :=
  ((Config.ofEnvironment lookup).apply (document.getD {})).apply options

end Groupwise
