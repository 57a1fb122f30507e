import Groupwise.Mode
import Groupwise.Parallel

/-!
# Aggregation in any mode and style

An `Aggregation` bundles the questions that an aggregation asks its caller: the key of a record,
the starting value, and the change a record makes, both as a new value and as an update in place.
`serial` and `parallel` are the results in a given style, `serialLazy` and `parallelLazy` the views
that wait for the first read.
-/

namespace Groupwise

/-- What is aggregated. -/
structure Aggregation (m : Type → Type) (R K A : Type) where
  key : R → m K
  zero : m A
  add : A → R → A

namespace Aggregation

variable {m : Type → Type} [Monad m] [MonadExceptOf Abort m] {R K A : Type} [BEq K] [Merge A]

/-- The update in place that has the effect of `add`. -/
def accept (a : Aggregation m R K A) (r : R) : StateM A Unit := modify (a.add · r)

/-- The result of a serial run. There is nothing to reduce, so the styles in place are one. -/
def serial (a : Aggregation m R K A) (style : Style) (records : List R) : m (GroupMap K A) :=
  match style with
  | .immutable => aggregateBy a.key a.zero a.add records
  | .inPlace | .inPlaceReduce => aggregateInPlaceBy a.key a.zero a.accept records

/-- The result of a parallel run. -/
def parallel (a : Aggregation m R K A) (p : ParallelAggregator K) (style : Style)
    (records : List R) : m (GroupMap K A) :=
  match style with
  | .immutable => p.aggregateBy a.key a.zero a.add records
  | .inPlace => p.aggregateInPlaceBy a.key a.zero a.accept records
  | .inPlaceReduce => p.aggregateInPlaceByReduce a.key a.zero a.accept records

/-- A serial run that waits for the first read. -/
def serialLazy (a : Aggregation m R K A) (style : Style) (records : List R) :
    LazyView m (GroupMap K A) := .pending (a.serial style records)

/-- A parallel run that waits for the first read. -/
def parallelLazy (a : Aggregation m R K A) (p : ParallelAggregator K) (style : Style)
    (records : List R) : LazyView m (GroupMap K A) := .pending (a.parallel p style records)

end Aggregation

end Groupwise
