import Groupwise.Aggregate
import Groupwise.Word

/-!
# A map shared by workers

The keys of a `SharedMap` are spread over shards by a hash. A worker takes a record in up to two
locked steps. Under the read lock of the key's shard it updates the accumulator of the key, if
there is one. If not, it comes back under the write lock, where it inserts a fresh accumulator
unless another worker has done so meanwhile, and updates that one. Between the two steps, and
between records, other workers may step.
-/

namespace Groupwise

/-- A way to spread keys, the same for equal keys. -/
structure KeyHash (K : Type) [BEq K] where
  hash : K → Nat
  hash_eq : ∀ k l : K, (k == l) = true → hash k = hash l

/-- The most shards that a list can have, 64 bytes each. -/
def shardCapacity : Nat := listCapacity 64

/-- A map whose entries are spread over shards. -/
structure SharedMap (K A : Type) [BEq K] where
  spread : KeyHash K
  shards : List (GroupMap K A)

namespace SharedMap

variable {m : Type → Type} [Monad m] {K A : Type} [BEq K]

/-- The empty map; it has at least one shard, and no more than there is room for. -/
def new (spread : KeyHash K) (shards : Nat) : Except Trap (SharedMap K A) :=
  if shardCapacity < max shards 1 then .error .capacity
  else .ok ⟨spread, List.replicate (max shards 1) ∅⟩

/-- The number of the shard of a key. -/
def index (s : SharedMap K A) (k : K) : Nat := s.spread.hash k % s.shards.length

/-- The shard of a key. -/
def shard (s : SharedMap K A) (k : K) : GroupMap K A := s.shards.getD (s.index k) ∅

/-- The map with another content of one shard. -/
def setShard (s : SharedMap K A) (k : K) (g : GroupMap K A) : SharedMap K A :=
  { s with shards := s.shards.set (s.index k) g }

/-- The step under the read lock: the update of an accumulator that is there. -/
def updateExisting (s : SharedMap K A) (k : K) (f : A → A) : Option (SharedMap K A) :=
  if (s.shard k).contains k then some (s.setShard k ((s.shard k).modify k f)) else none

/-- The step under the write lock: the update of the accumulator of `k`, made if it is missing. -/
def updateOrInsert (s : SharedMap K A) (k : K) (factory : m A) (f : A → A) :
    m (SharedMap K A) := do
  let g ← (s.shard k).ensure k factory
  return s.setShard k (g.modify k f)

/-- Both steps, with no other worker between them. -/
def accept (s : SharedMap K A) (k : K) (factory : m A) (f : A → A) : m (SharedMap K A) :=
  match s.updateExisting k f with
  | some s => return s
  | none => s.updateOrInsert k factory f

def size (s : SharedMap K A) : Nat := s.shards.foldl (fun n m => n + m.size) 0

def isEmpty (s : SharedMap K A) : Bool := s.size == 0

/-- All entries in one map. -/
def toMap (s : SharedMap K A) : GroupMap K A :=
  .ofList (s.shards.flatMap GroupMap.entries)

end SharedMap

/-! ### Workers on a shared map -/

/-- Where a worker stands in its batch. -/
inductive WorkerPhase (K : Type)
  /-- The batch has not begun. -/
  | waiting
  /-- The next record has not been looked at. -/
  | reading
  /-- The key of the next record had no accumulator under the read lock. -/
  | missed (k : K)

/-- A batch in progress: the phase and the records left. -/
structure SharedWorker (R K : Type) where
  phase : WorkerPhase K
  rest : List R

/-- What workers do with the records of their batches. -/
structure SharedTask (m : Type → Type) (R K A : Type) where
  /-- What happens before the first record of a batch. -/
  begin : m Unit
  key : R → m K
  factory : m A
  accept : R → StateM A Unit

namespace SharedTask

variable {m : Type → Type} [Monad m] {R K A : Type} [BEq K]

/-- The change a record makes to an accumulator. -/
def update (task : SharedTask m R K A) (r : R) (a : A) : A := ((task.accept r).run a).2

/-- One step of one worker. -/
def step (task : SharedTask m R K A) (s : SharedMap K A) (w : SharedWorker R K) :
    m (SharedMap K A × SharedWorker R K) := do
  match w.phase, w.rest with
  | .waiting, rest =>
    task.begin
    return (s, ⟨.reading, rest⟩)
  | _, [] => return (s, w)
  | .reading, r :: rest =>
    let k ← task.key r
    match s.updateExisting k (task.update r) with
    | some s => return (s, ⟨.reading, rest⟩)
    | none => return (s, ⟨.missed k, r :: rest⟩)
  | .missed k, r :: rest =>
    return (← s.updateOrInsert k task.factory (task.update r), ⟨.reading, rest⟩)

/-- The rest of a batch, without any other worker between the steps. -/
def finish (task : SharedTask m R K A) (s : SharedMap K A) (w : SharedWorker R K) :
    m (SharedMap K A) := do
  let (s, w) ← match w.phase with
    | .reading => pure (s, w)
    | _ => task.step s w
  w.rest.foldlM (fun s r => do s.accept (← task.key r) task.factory (task.update r)) s

/-- One step of the worker whose turn it is; a turn of nobody is void. -/
def turn (task : SharedTask m R K A) (state : SharedMap K A × List (SharedWorker R K)) (i : Nat) :
    m (SharedMap K A × List (SharedWorker R K)) := do
  match state.2[i]? with
  | none => return state
  | some w =>
    let (s, w) ← task.step state.1 w
    return (s, state.2.set i w)

/-- All batches: the workers step in the order of `turns`, and what they leave undone is done
batch by batch. -/
def run (task : SharedTask m R K A) (s : SharedMap K A) (turns : List Nat)
    (batches : List (List R)) : m (SharedMap K A) := do
  let (s, workers) ← turns.foldlM task.turn (s, batches.map (⟨.waiting, ·⟩))
  workers.foldlM task.finish s

end SharedTask

end Groupwise
