import Groupwise.Aggregation
import Groupwise.Engine.Error
import Groupwise.Manifest
import Groupwise.Position.Json
import Groupwise.Stats.Json

/-!
# The engine

An engine has a valid configuration and a pool of workers. A run of it groups positions in a given
mode and style, and comes with a manifest that says what was done. `compareModes` runs several
modes and checks each result against that of a serial, eager run.

What a run cannot know by itself is a `Reading`: the time, a fresh identifier, and the schedule of
its workers.
-/

namespace Groupwise

variable {V : Type}

instance : Inhabited (KeyHash (GroupKey V)) :=
  ⟨⟨fun k => 3 * textHash k.name + k.rank, fun k l h => by simp_all⟩⟩

/-- What a run takes from the world around it; times are in milliseconds. -/
structure Reading (V : Type) where
  id : Uuid
  started : Nat
  finished : Nat
  schedule : Schedule (GroupKey V)

/-- The result of a run and its description. -/
structure RunOutcome (V : Type) where
  manifest : Manifest
  result : GroupMap (GroupKey V) (Stats V)

/-- The outcome of a mode, and whether its result is the same as that of the baseline to the last
bit. -/
structure ModeReport (V : Type) where
  outcome : RunOutcome V
  identical : Bool

variable [Number V]

/-- A configuration that can be used, and the workers it asks for. -/
structure Engine (V : Type) [Number V] where
  config : Config V
  pool : WorkerPool
  overflow : Overflow
  valid : config.validate = .ok ()

namespace Engine

/-- An engine for a configuration. It has as many workers as the machine unless the configuration
says otherwise. -/
def new (o : Overflow) (machine : WorkerPool) (config : Config V) :
    Except (EngineError V) (Engine V) :=
  match h : config.validate with
  | .error cause => .error (.config cause)
  | .ok () =>
    match config.parallelism with
    | none => .ok ⟨config, machine, o, h⟩
    | some n =>
      match WorkerPool.ofThreads? n with
      | none => .error .noWorkers
      | some pool => .ok ⟨config, pool, o, h⟩

def workers (e : Engine V) : Nat := e.pool.threads

/-- The size of the batches of an input: the configured one, or one that spreads the input over the
workers. -/
def batchSizeFor (e : Engine V) (records : Nat) : Except Trap BatchSize :=
  match e.config.batchSize.bind BatchSize.ofNat? with
  | some size => .ok size
  | none => chooseBatchSize e.overflow records e.workers

/-- The error of a run whose program is stopped. -/
def stopped (cause : Trap) : EngineError V := .aborted (.trap cause)

/-- How an input is aggregated in parallel. -/
def aggregator (e : Engine V) (schedule : Schedule (GroupKey V)) (records : Nat) :
    Except (EngineError V) (ParallelAggregator (GroupKey V)) :=
  match e.batchSizeFor records with
  | .error cause => .error (stopped cause)
  | .ok size =>
    match ParallelAggregator.ofSize? e.overflow .none schedule size.val with
    | none => .error .invalidBatchSize
    | some p => .ok (p.withLockShards e.config.lockShards)

/-- Tear an engine down whose workers take the given times to leave. -/
def shutdown (e : Engine V) (leaving : List Nat) : Except (EngineError V) Unit :=
  match e.pool.shutdown leaving e.config.shutdownTimeoutMs with
  | .stopped => .ok ()
  | .timedOut live => .error (.shutdownTimeout live e.config.shutdownTimeoutMs)

/-! ### Running -/

/-- The groups of positions with plain summaries. -/
def plain (g : Grouping) : Aggregation (Except Abort) (Position V) (GroupKey V) (Stats V) :=
  ⟨fun p => .ok (g.key p), .ok .zero, fun s p => s.addValue p.marketValue⟩

/-- The groups of positions with compensated summaries. -/
def compensated (g : Grouping) :
    Aggregation (Except Abort) (Position V) (GroupKey V) (Accumulator V) :=
  ⟨fun p => .ok (g.key p), .ok .empty, fun a p => a.accept p.marketValue⟩

/-- Aggregate in the given mode; lazy views are read at once. -/
def execute {A : Type} [Merge A] (e : Engine V) (schedule : Schedule (GroupKey V)) (kind : RunKind)
    (a : Aggregation (Except Abort) (Position V) (GroupKey V) A) (positions : List (Position V)) :
    Except (EngineError V) (GroupMap (GroupKey V) A) :=
  match kind.mode with
  | .serialEager => (a.serial kind.style positions).mapError .aborted
  | .serialLazy => (a.serialLazy kind.style positions).intoValue.mapError .aborted
  | .parallelEager =>
    match e.aggregator schedule positions.length with
    | .error cause => .error cause
    | .ok p => (a.parallel p kind.style positions).mapError .aborted
  | .parallelLazy =>
    match e.aggregator schedule positions.length with
    | .error cause => .error cause
    | .ok p => (a.parallelLazy p kind.style positions).intoValue.mapError .aborted

/-- The result of a run. Runs in place use compensated summaries. -/
def result (e : Engine V) (schedule : Schedule (GroupKey V)) (kind : RunKind)
    (positions : List (Position V)) :
    Except (EngineError V) (GroupMap (GroupKey V) (Stats V)) :=
  match kind.style with
  | .immutable => e.execute schedule kind (plain kind.grouping) positions
  | .inPlace | .inPlaceReduce =>
    (GroupMap.mapValues Accumulator.snapshot) <$>
      e.execute schedule kind (compensated kind.grouping) positions

/-- The manifest of a run before it is finished. -/
def manifest (e : Engine V) (id : Uuid) (schedule : Schedule (GroupKey V)) (kind : RunKind)
    (records started : Nat) : Except (EngineError V) Manifest :=
  let m := (Manifest.start id kind records started).withSeed e.config.seed
  if kind.mode.isParallel then
    match e.aggregator schedule records with
    | .error cause => .error cause
    | .ok p =>
      match p.plan records with
      | .error cause => .error (stopped cause)
      | .ok plan => .ok (m.withBatching p.batchSize.val plan.size e.workers)
  else .ok m

variable [Json.ToValue V]

/-- The outcome of a run with the given result. -/
def conclude (m : Manifest) (finished : Nat) (result : GroupMap (GroupKey V) (Stats V)) :
    Except (EngineError V) (RunOutcome V) :=
  match digestEntries result.entries with
  | .error cause => .error (.hash cause)
  | .ok digest => .ok ⟨m.finish finished result.size (some digest), result⟩

/-- Run an aggregation of positions. -/
def run (e : Engine V) (reading : Reading V) (kind : RunKind) (positions : List (Position V)) :
    Except (EngineError V) (RunOutcome V) := do
  let m ← e.manifest reading.id reading.schedule kind positions.length reading.started
  let result ← e.result reading.schedule kind positions
  conclude m reading.finished result

/-! ### Comparing modes -/

/-- The report of a mode, unless its result differs from the baseline by more than `tolerance`. -/
def report (tolerance : V) (baseline : RunOutcome V) (mode : Mode) (outcome : RunOutcome V) :
    Except (EngineError V) (ModeReport V) :=
  match verifyMapsEqual baseline.result outcome.result tolerance with
  | .error cause => .error (.verify mode cause)
  | .ok () => .ok ⟨outcome, decide (outcome.manifest.digest = baseline.manifest.digest)⟩

/-- The reports of modes, each run by `run` under a number of its own, unless the baseline stands
in for it. -/
def reports {m : Type → Type} [Monad m] [MonadExceptOf (EngineError V) m] (tolerance : V)
    (baseline : RunOutcome V) (run : Nat → Mode → m (RunOutcome V)) :
    Nat → List Mode → m (List (ModeReport V))
  | _, [] => return []
  | n, mode :: modes => do
    let outcome ← if mode = .serialEager then pure baseline else run n mode
    let r ← MonadExcept.ofExcept (report tolerance baseline mode outcome)
    return r :: (← reports tolerance baseline run (n + 1) modes)

/-- Run a baseline, and then each of `modes` against it. -/
def compareWith {m : Type → Type} [Monad m] [MonadExceptOf (EngineError V) m] (tolerance : V)
    (run : Nat → Mode → m (RunOutcome V)) (modes : List Mode) : m (List (ModeReport V)) := do
  let baseline ← run 0 .serialEager
  reports tolerance baseline run 1 modes

/-- Compare modes of one style; run number `n` has the reading `readings n`. -/
def compareModes (e : Engine V) (readings : Nat → Reading V) (grouping : Grouping) (style : Style)
    (modes : List Mode) (positions : List (Position V)) :
    Except (EngineError V) (List (ModeReport V)) :=
  compareWith e.config.sumTolerance
    (fun n mode => e.run (readings n) ⟨mode, style, grouping⟩ positions) modes

end Engine

end Groupwise
