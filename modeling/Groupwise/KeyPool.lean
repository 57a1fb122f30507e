/-!
# Pools of shared keys

A pool keeps one instance of each key. Putting in a key that equals a pooled one gives back the
pooled instance: the first one wins, and entries are never replaced. Instances are told apart by
the order in which they came into the pool.
-/

namespace Groupwise

/-- A value together with the identity of its instance. -/
structure Pooled (α : Type) where
  instanceId : Nat
  value : α
deriving Repr, DecidableEq

/-- The instances of a pool, oldest first. -/
structure KeyPool (α : Type) where
  entries : List α
deriving Repr

namespace KeyPool

variable {α : Type} [BEq α]

def empty : KeyPool α := ⟨[]⟩

def size (p : KeyPool α) : Nat := p.entries.length

def isEmpty (p : KeyPool α) : Bool := p.entries.isEmpty

/-- The pooled instance that equals `a`. -/
def get? (p : KeyPool α) (a : α) : Option (Pooled α) :=
  let i := p.entries.findIdx (· == a)
  p.entries[i]?.map (⟨i, ·⟩)

def contains (p : KeyPool α) (a : α) : Bool := (p.get? a).isSome

/-- The pooled instance that equals `a`, which is `a` itself if there was none. -/
def put (p : KeyPool α) (a : α) : Pooled α × KeyPool α :=
  match p.get? a with
  | some pooled => (pooled, p)
  | none => (⟨p.size, a⟩, ⟨p.entries ++ [a]⟩)

end KeyPool

end Groupwise
