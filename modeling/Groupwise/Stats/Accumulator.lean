import Groupwise.Stats

/-!
# Accumulators with a compensated sum

An `Accumulator` collects the same summary as `Stats` value by value, with the rounding error of
its sum carried along: the exact sum is `sum - compensation` up to one last rounding. Once an
infinite value came in, the compensated pair is not a number any more, and the plain running sum
stands in for it.

The one rounded addition of a compensated step is a parameter of the `With` functions; the plain
functions take the addition of the number type for it.
-/

namespace Groupwise

open Number

/-- A running sum with the error of its last addition. -/
structure Compensated (V : Type) where
  sum : V
  compensation : V
deriving DecidableEq, Repr

namespace Compensated

variable {V : Type} [Number V]

def zero : Compensated V := ⟨Number.zero, Number.zero⟩

/-- One compensated step: the carried error is taken off the value, and what the addition `plus`
then loses is carried on. -/
def addWith (plus : V → V → V) (c : Compensated V) (v : V) : Compensated V :=
  let y := sub v c.compensation
  let t := plus c.sum y
  ⟨t, sub (sub t c.sum) y⟩

def addValue (c : Compensated V) (v : V) : Compensated V := c.addWith add v

/-- The sum less the carried error. -/
def total (c : Compensated V) : V := sub c.sum c.compensation

/-- The sum and the carried error of another running sum, each added in its own step. -/
def combineWith (plus plus' : V → V → V) (c d : Compensated V) : Compensated V :=
  (c.addWith plus d.sum).addWith plus' (neg d.compensation)

def combine (c d : Compensated V) : Compensated V := c.combineWith add add d

end Compensated

/-- A summary under construction. -/
structure Accumulator (V : Type) where
  count : UInt64
  compensated : Compensated V
  /-- The plain running sum, which infinite values do not spoil. -/
  plainSum : V
  min : V
  max : V
deriving DecidableEq, Repr

namespace Accumulator

variable {V : Type} [Number V]

/-- The accumulator that no value has reached. -/
def empty : Accumulator V := ⟨0, .zero, Number.zero, posInf, negInf⟩

/-- Take in one value, its compensated addition rounded by `plus`. -/
def acceptWith (plus : V → V → V) (a : Accumulator V) (v : V) : Accumulator V :=
  ⟨a.count + 1, a.compensated.addWith plus v, add a.plainSum v, least a.min v, greatest a.max v⟩

/-- Take in one value. -/
def accept (a : Accumulator V) (v : V) : Accumulator V := a.acceptWith add v

/-- Take in the values of another accumulator, the two compensated additions rounded by `plus`
and `plus'`. -/
def combineWith (plus plus' : V → V → V) (a b : Accumulator V) : Accumulator V :=
  ⟨a.count + b.count, a.compensated.combineWith plus plus' b.compensated,
    add a.plainSum b.plainSum, least a.min b.min, greatest a.max b.max⟩

/-- Take in the values of another accumulator. -/
def combine (a b : Accumulator V) : Accumulator V := a.combineWith add add b

/-- The sum of the values: the compensated one unless infinities have made it not a number. -/
def sum (a : Accumulator V) : V :=
  let total := a.compensated.total
  if isNaN total && isInfinite a.plainSum then a.plainSum else total

/-- The summary collected so far. -/
def snapshot (a : Accumulator V) : Stats V := ⟨a.count, a.sum, a.min, a.max⟩

/-- The mean value, zero when there is none. -/
def average (a : Accumulator V) : V :=
  if a.count = 0 then Number.zero else share a.sum a.count.toNat

/-- Numerically equal in all fields. -/
def equal (a b : Accumulator V) : Bool :=
  a.count == b.count && Number.equal a.compensated.sum b.compensated.sum &&
    Number.equal a.compensated.compensation b.compensated.compensation &&
    Number.equal a.plainSum b.plainSum && Number.equal a.min b.min && Number.equal a.max b.max

/-- The collected summaries agree up to `tolerance`. -/
def approxEq (a b : Accumulator V) (tolerance : V) : Bool :=
  a.snapshot.approxEq b.snapshot tolerance

@[simp] theorem count_empty : (empty : Accumulator V).count = 0 := rfl

@[simp] theorem count_accept (a : Accumulator V) (v : V) : (a.accept v).count = a.count + 1 := rfl

@[simp] theorem min_accept (a : Accumulator V) (v : V) : (a.accept v).min = least a.min v := rfl

@[simp] theorem max_accept (a : Accumulator V) (v : V) :
    (a.accept v).max = greatest a.max v := rfl

@[simp] theorem count_combine (a b : Accumulator V) :
    (a.combine b).count = a.count + b.count := rfl

@[simp] theorem min_combine (a b : Accumulator V) :
    (a.combine b).min = least a.min b.min := rfl

@[simp] theorem max_combine (a b : Accumulator V) :
    (a.combine b).max = greatest a.max b.max := rfl

@[simp] theorem snapshot_count (a : Accumulator V) : a.snapshot.count = a.count := rfl

end Accumulator

end Groupwise
