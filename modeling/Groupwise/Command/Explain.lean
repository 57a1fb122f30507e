import Groupwise.Command.Error
import Groupwise.Config.Layers
import Groupwise.Decimal.Fixed

/-!
# Explaining batches

The command shows the batches that an input of a given size would be cut into, without an input.
-/

namespace Groupwise

/-- The line of a batch. -/
def Batch.line (b : Batch) : String :=
  "  " ++ b.id.text ++ " rows " ++ natText b.start ++ ".." ++ natText b.stop ++ " (" ++
    natText b.size ++ " records)"

namespace BatchPlan

/-- How many batches are shown. -/
def shown : Nat := 8

/-- The number of batches for each worker. -/
def perWorker (p : BatchPlan) (workers : Nat) : Float := p.size.toFloat / workers.toFloat

/-- The description of a plan; a batch size is marked if it was derived from the input. -/
def description (p : BatchPlan) (workers : Nat) (derived : Bool) : List String :=
  ["Batch Plan",
    "==========",
    "",
    "Records: " ++ natText p.records,
    "Workers: " ++ natText workers,
    "Batch Size: " ++ natText p.batchSize ++ " records" ++ (if derived then " (derived)" else ""),
    "Total Batches: " ++ natText p.size,
    "Batches per Worker: " ++ Decimal.twoPlaces (p.perWorker workers),
    "",
    "Batches:"] ++
  (p.batches.take shown).map Batch.line ++
  if shown < p.size then ["  ... " ++ natText (p.size - shown) ++ " more"] else []

end BatchPlan

namespace Host

variable {m : Type → Type} [Monad m]

/-- Show the batches of an input of the configured size. -/
def explain (h : Host m) (size batchSize threads : Option Nat) : Step m Unit := do
  let config := Config.layered h.lookup none (.ofOptions batchSize threads size none)
  check .config config.validate
  let e ← check .engine (Engine.new h.overflow h.machine config)
  let plan ← check (.engine ∘ Engine.stopped) do
    planBatches h.overflow config.datasetSize (← e.batchSizeFor config.datasetSize)
  h.printLines (plan.description e.workers config.batchSize.isNone)
  check .engine (e.shutdown (List.replicate e.workers 0))

end Host

end Groupwise
