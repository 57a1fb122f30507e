import Groupwise.Json.Value
import Groupwise.Text.Digits
import Groupwise.Word

/-!
# Batches

Parallel runs cut their input into contiguous batches of one size; only the last one may be
shorter. A batch is the unit of work of one worker and is never split.

Batches are planned with words. Where a full batch would end is a sum that may overflow, although
the end of the input cuts the batch off before, and so may the number of batches that the workers
should get, a product.
-/

namespace Groupwise

open Json

/-! ### Identifiers -/

/-- The number of a batch, in input order. -/
structure BatchId where
  index : Nat
deriving DecidableEq, Repr

def BatchId.text (i : BatchId) : String := "BatchId(" ++ natText i.index ++ ")"

instance : ToValue BatchId := ⟨fun i => .natural i.index⟩

/-- The number of a worker of a pool. -/
structure WorkerId where
  index : Nat
deriving DecidableEq, Repr

def WorkerId.text (i : WorkerId) : String := "WorkerId(" ++ natText i.index ++ ")"

instance : ToValue WorkerId := ⟨fun i => .natural i.index⟩

/-! ### Plans -/

/-- The records from `start` up to, but not including, `stop`. -/
structure Batch where
  id : BatchId
  start : Nat
  stop : Nat
deriving DecidableEq, Repr

namespace Batch

def size (b : Batch) : Nat := b.stop - b.start

def isEmpty (b : Batch) : Bool := b.stop ≤ b.start

/-- The records of a batch. -/
def slice {R : Type} (b : Batch) (records : List R) : List R :=
  (records.drop b.start).take b.size

instance : ToValue Batch where
  toValue b := .object [("id", toValue b.id),
    ("range", .object [("start", .natural b.start), ("end", .natural b.stop)])]

end Batch

/-- How many records a batch has. -/
structure BatchSize where
  val : Nat
  pos : 0 < val
deriving DecidableEq

/-- A size if it is not zero. -/
def BatchSize.ofNat? (n : Nat) : Option BatchSize := if h : 0 < n then some ⟨n, h⟩ else none

/-- A division of an input into batches. -/
structure BatchPlan where
  records : Nat
  batchSize : Nat
  batches : List Batch
deriving DecidableEq, Repr

namespace BatchPlan

def size (p : BatchPlan) : Nat := p.batches.length

def isEmpty (p : BatchPlan) : Bool := p.batches.isEmpty

instance : ToValue BatchPlan where
  toValue p := .object [("records", .natural p.records), ("batch_size", .natural p.batchSize),
    ("batches", .array (p.batches.map toValue))]

end BatchPlan

/-- The quotient rounded up. -/
def ceilDiv (n d : Nat) : Nat := (n + d - 1) / d

/-- Where the batches of a plan start. -/
def batchStarts (records : Nat) (size : BatchSize) : List Nat :=
  (List.range (ceilDiv records size.val)).map (· * size.val)

/-- The most batches that a list can have, 24 bytes each. -/
def batchCapacity : Nat := listCapacity 24

/-- The batch of the given number, from `start` on. -/
def batchOn (o : Overflow) (records : Nat) (size : BatchSize) (i start : Nat) :
    Except Trap Batch := do
  let reach ← o.add start size.val
  return ⟨⟨i⟩, start, min reach records⟩

/-- Cut `records` records into batches, once there is room for all of them. -/
def planBatches (o : Overflow) (records : Nat) (size : BatchSize) : Except Trap BatchPlan :=
  if batchCapacity < ceilDiv records size.val then .error .capacity
  else do
    let batches ← (batchStarts records size).zipIdx.mapM fun (start, i) =>
      batchOn o records size i start
    return ⟨records, size.val, batches⟩

/-- Each worker should get about this many batches. -/
def batchesPerWorker : Nat := 4

/-- A batch size that spreads the records over the workers. -/
def chooseBatchSize (o : Overflow) (records workers : Nat) : Except Trap BatchSize := do
  let target ← o.mul (max workers 1) batchesPerWorker
  if target = 0 then .error .divisionByZero
  else return ⟨max (ceilDiv records target) 1, by omega⟩

end Groupwise
