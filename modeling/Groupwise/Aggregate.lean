import Groupwise.GroupMap
import Groupwise.Stats.Accumulator

/-!
# Grouped aggregation

Records are folded one after the other into a map from keys to running values. The caller says
what the key of a record is, which value a new key starts from, and how a record changes the value
of its key. The first two questions may have effects in a monad `m`: the key is asked for once for
each record, the starting value once for each new key.

`merge` joins the maps of two parts of the input.
-/

namespace Groupwise

variable {m : Type → Type} [Monad m] {R K A : Type} [BEq K]

/-! ### Folding records -/

/-- The map with an entry for `k`, whose value is asked for only if there is none yet. -/
def GroupMap.ensure (g : GroupMap K A) (k : K) (zero : m A) : m (GroupMap K A) :=
  if g.contains k then pure g else return g.insertNew k (← zero)

/-- One record of an aggregation of plain values. -/
def aggregateStep (key : R → m K) (zero : m A) (add : A → R → A) (g : GroupMap K A) (r : R) :
    m (GroupMap K A) := do
  let k ← key r
  let g ← g.ensure k zero
  return g.modify k (add · r)

/-- Group records by key; the value of a key is the fold of `add` over its records. -/
def aggregateBy (key : R → m K) (zero : m A) (add : A → R → A) (records : List R) :
    m (GroupMap K A) :=
  records.foldlM (aggregateStep key zero add) ∅

/-- One record of an aggregation in place. -/
def acceptStep (key : R → m K) (factory : m A) (accept : R → StateM A Unit) (g : GroupMap K A)
    (r : R) : m (GroupMap K A) := do
  let k ← key r
  let g ← g.ensure k factory
  return g.modify k fun a => ((accept r).run a).2

/-- Group records by key; each key has one accumulator, which its records update in place. -/
def aggregateInPlaceBy (key : R → m K) (factory : m A) (accept : R → StateM A Unit)
    (records : List R) : m (GroupMap K A) :=
  records.foldlM (acceptStep key factory accept) ∅

/-! ### Merging partial results -/

/-- Running values of two parts of the input can be joined. -/
class Merge (A : Type) where
  merge : A → A → A

instance {V : Type} [Number V] : Merge (Stats V) := ⟨Stats.merge⟩

instance {V : Type} [Number V] : Merge (Accumulator V) := ⟨Accumulator.combine⟩

instance : Merge Nat := ⟨(· + ·)⟩

instance : Merge Int := ⟨(· + ·)⟩

instance : Merge Float := ⟨(· + ·)⟩

namespace GroupMap

/-- One more entry: merged with the value of its key if there is one, and then under the key of
the new entry. -/
def absorb [Merge A] (g : GroupMap K A) (k : K) (a : A) : GroupMap K A :=
  g.replace k <| match g.get? k with
    | some existing => Merge.merge existing a
    | none => a

/-- The union of two maps, values of common keys merged. The entries of the smaller map go into
the larger one; of two maps of one size, the right one goes into the left one. -/
def merge [Merge A] (left right : GroupMap K A) : GroupMap K A :=
  let (into, others) := if right.size ≤ left.size then (left, right) else (right, left)
  others.entries.foldl (fun g e => g.absorb e.1 e.2) into

end GroupMap

end Groupwise
