import Groupwise.Batch
import Groupwise.Failpoint
import Groupwise.LazyView
import Groupwise.Schedule

/-!
# Parallel aggregation

The input is cut into batches. In the reducing styles each batch is folded into a map of its own,
and these partial maps are merged. In the shared style all batches update one shared map. A batch
that breaks off breaks off the whole run; no partial result escapes. A run whose batches or shards
there is no room for breaks off before its first batch.
-/

namespace Groupwise

/-- The number of shards unless another one is asked for. -/
def defaultLockShards : Nat := 64

/-- A way to aggregate in parallel. -/
structure ParallelAggregator (K : Type) [BEq K] where
  overflow : Overflow
  batchSize : BatchSize
  lockShards : Nat
  failpoints : Failpoints
  schedule : Schedule K

namespace ParallelAggregator

variable {m : Type → Type} [Monad m] [MonadExceptOf Abort m] {R K A : Type} [BEq K]

/-- An aggregator with batches of the given size, if it is one. -/
def ofSize? (o : Overflow) (failpoints : Failpoints) (schedule : Schedule K) (batchSize : Nat) :
    Option (ParallelAggregator K) :=
  (BatchSize.ofNat? batchSize).map (⟨o, ·, defaultLockShards, failpoints, schedule⟩)

/-- The same with another number of shards; one at least. -/
def withLockShards (p : ParallelAggregator K) (shards : Nat) : ParallelAggregator K :=
  { p with lockShards := max shards 1 }

/-- The batches of an input. -/
def plan (p : ParallelAggregator K) (records : Nat) : Except Trap BatchPlan :=
  planBatches p.overflow records p.batchSize

/-- Fold each batch with `fold`, and merge the partial maps. -/
def reduceBatches [Merge A] (p : ParallelAggregator K) (point : Failpoint)
    (fold : List R → m (GroupMap K A)) (records : List R) : m (GroupMap K A) := do
  let plan ← trapped (p.plan records.length)
  let parts ← (p.schedule.reduction plan.batches).mapM fun b => do
    p.failpoints.pass point
    fold (b.slice records)
  return parts.value ∅ GroupMap.merge

/-- Aggregation of plain values: each batch has a map of its own. -/
def aggregateBy [Merge A] (p : ParallelAggregator K) (key : R → m K) (zero : m A)
    (add : A → R → A) (records : List R) : m (GroupMap K A) :=
  p.reduceBatches .batchFold (Groupwise.aggregateBy key zero add) records

/-- Aggregation in place on a map shared by all batches. -/
def aggregateInPlaceBy (p : ParallelAggregator K) (key : R → m K) (factory : m A)
    (accept : R → StateM A Unit) (records : List R) : m (GroupMap K A) := do
  let plan ← trapped (p.plan records.length)
  let shared ← trapped (SharedMap.new p.schedule.spread p.lockShards)
  let task : SharedTask m R K A := ⟨p.failpoints.pass .batchAccept, key, factory, accept⟩
  let shared ← task.run shared p.schedule.turns (plan.batches.map (·.slice records))
  return shared.toMap

/-- Aggregation in place on one map for each batch. -/
def aggregateInPlaceByReduce [Merge A] (p : ParallelAggregator K) (key : R → m K) (factory : m A)
    (accept : R → StateM A Unit) (records : List R) : m (GroupMap K A) :=
  p.reduceBatches .batchReduce (Groupwise.aggregateInPlaceBy key factory accept) records

end ParallelAggregator

end Groupwise
