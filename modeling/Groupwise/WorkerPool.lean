import Groupwise.Inspect

/-!
# Worker pools and their shutdown

A pool starts a fixed number of workers and counts those that are still alive. Shutting it down
tells the workers to leave and waits until the count is zero, at most for a given time.

The shutdown is a process of `Event`s: workers leave one by one, the waiter starts to wait, it is
woken up for any reason or none, and its time runs out. Each time it is awake, the waiter looks at
the count first.
-/

namespace Groupwise

/-- A pool of workers. -/
structure WorkerPool where
  threads : Nat
  pos : 0 < threads

namespace WorkerPool

/-- A pool, unless it would have no worker at all. -/
def ofThreads? (threads : Nat) : Option WorkerPool :=
  if h : 0 < threads then some ⟨threads, h⟩ else none

/-- What became of a shutdown. -/
inductive Outcome
  | stopped
  /-- The time ran out with so many workers alive. -/
  | timedOut (live : Nat)
deriving DecidableEq, Repr

/-- What the waiter is doing. -/
inductive Waiter
  | absent
  | waiting
  | done (outcome : Outcome)
deriving DecidableEq, Repr

/-- A pool in the course of its life. -/
structure Life where
  /-- For each worker, whether it is alive. -/
  alive : List Bool
  /-- The count of live workers that the pool keeps. -/
  live : Nat
  /-- Whether the time for waiting has run out. -/
  expired : Bool
  waiter : Waiter
deriving DecidableEq, Repr

/-- What can happen next. -/
inductive Event
  /-- A worker leaves. -/
  | leave (worker : Nat)
  /-- The waiter takes the lock for the first time. -/
  | beginWait
  /-- The waiter is woken up. -/
  | wake
  /-- The time for waiting runs out. -/
  | expire
deriving DecidableEq, Repr

namespace Life

/-- All workers have just been started. -/
def start (pool : WorkerPool) : Life :=
  ⟨List.replicate pool.threads true, pool.threads, false, .absent⟩

/-- The number of workers that have not left. -/
def remaining (s : Life) : Nat := s.alive.count true

/-- Whether a wait for the count has ended, and then whether its time had run out. The count is
looked at first. -/
def waited? (s : Life) : Option Bool :=
  if s.live = 0 then some false else if s.expired then some true else none

/-- What a shutdown makes of a wait that has ended. -/
def verdict (s : Life) (ranOut : Bool) : Outcome :=
  if ranOut && 0 < s.live then .timedOut s.live else .stopped

/-- The waiter looks, and goes on waiting unless the wait has ended. -/
def look (s : Life) : Life :=
  match s.waited? with
  | none => { s with waiter := .waiting }
  | some ranOut => { s with waiter := .done (s.verdict ranOut) }

/-- The life after an event; events that cannot happen change nothing. -/
def step (s : Life) : Event → Life
  | .leave i =>
    if s.alive[i]? = some true then { s with alive := s.alive.set i false, live := s.live - 1 }
    else s
  | .beginWait => if s.waiter = .absent then s.look else s
  | .wake => if s.waiter = .waiting then s.look else s
  | .expire => if s.waiter = .waiting then { s with expired := true } else s

/-- The life after a sequence of events. -/
def run (s : Life) (events : List Event) : Life := events.foldl step s

end Life

/-- The events of a shutdown whose workers leave at the given times, on the clock of the waiter:
those that are in time, the end of the time, and the rest. -/
def timeline (leaving : List Nat) (timeout : Nat) : List Event :=
  let ids := leaving.zipIdx
  let inTime := (ids.filter (·.1 ≤ timeout)).map fun e => Event.leave e.2
  let late := (ids.filter (timeout < ·.1)).map fun e => Event.leave e.2
  .beginWait :: inTime ++ [.wake, .expire, .wake] ++ late

/-- Shut a pool down whose workers take the given times to leave. -/
def shutdown (pool : WorkerPool) (leaving : List Nat) (timeout : Nat) : Outcome :=
  match ((Life.start pool).run (timeline leaving timeout)).waiter with
  | .done outcome => outcome
  | _ => .stopped

instance : Inspect WorkerPool where
  inspect p := inspectRecord "WorkerPool"
    [("threads", natText p.threads), ("live", natText (Life.start p).live)]

end WorkerPool

end Groupwise
