import Groupwise.Config
import Groupwise.Digest
import Groupwise.Failpoint
import Groupwise.Mode
import Groupwise.Verify
import Groupwise.WorkerPool

/-!
# What can go wrong in a run
-/

namespace Groupwise

/-- Why a run has no result; `V` is the type of the measured values. -/
inductive EngineError (V : Type)
  | config (cause : ConfigError V)
  | noWorkers
  | invalidBatchSize
  | shutdownTimeout (live timeoutMs : Nat)
  | verify (mode : Mode) (cause : VerifyError V (GroupKey V) (Stats V))
  | hash (cause : DigestError)
  | aborted (cause : Abort)

/-- The words for an entry list without a digest. -/
def DigestError.message (e : DigestError) : String := "Hashing error: " ++ e.cause.message

namespace EngineError

/-- The words for a run without a result; `showValue` writes a tolerance. -/
def message {V : Type} [Inspect V] (showValue : V → String) : EngineError V → String
  | config cause => "invalid configuration: " ++ cause.message showValue
  | noWorkers => "invalid configuration: worker pool needs at least one thread"
  | invalidBatchSize => "batch size must be at least 1"
  | shutdownTimeout live ms =>
    "worker pool shutdown timed out after " ++ natText ms ++ "ms with " ++ natText live ++
      " workers still running"
  | verify mode cause =>
    mode.name ++ " result differs from serial-eager baseline: " ++ cause.message showValue
  | hash cause => "hashing error: " ++ cause.cause.message
  | aborted cause => cause.message

end EngineError

end Groupwise
