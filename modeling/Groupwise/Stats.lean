import Groupwise.Number

/-!
# Summary statistics

`Stats` summarizes measured values by their count, sum, least and greatest value. It is a plain
value: adding a measurement gives a new summary, and two summaries of different values merge into
one of them all.

Counts are words, and a count of `2 ^ 64` values is zero again. This is what a program does that
goes on at an overflow; one that stops there has no summary of so many values.
-/

namespace Groupwise

open Number

/-- The summary of a collection of measured values. -/
structure Stats (V : Type) where
  count : UInt64
  sum : V
  min : V
  max : V
deriving DecidableEq, Repr

namespace Stats

variable {V : Type} [Number V]

/-- The summary of no values. -/
def zero : Stats V := ⟨0, Number.zero, posInf, negInf⟩

/-- The summary with one more value. -/
def addValue (s : Stats V) (v : V) : Stats V :=
  ⟨s.count + 1, add s.sum v, least s.min v, greatest s.max v⟩

/-- The summary of the values of both. -/
def merge (s t : Stats V) : Stats V :=
  ⟨s.count + t.count, add s.sum t.sum, least s.min t.min, greatest s.max t.max⟩

/-- The mean value, zero when there is none. -/
def average (s : Stats V) : V := if s.count = 0 then Number.zero else share s.sum s.count.toNat

def isEmpty (s : Stats V) : Bool := s.count == 0

/-- Numerically equal in all fields. -/
def equal (s t : Stats V) : Bool :=
  s.count == t.count && Number.equal s.sum t.sum && Number.equal s.min t.min &&
    Number.equal s.max t.max

/-- Equal counts and extrema, sums within `tolerance`. -/
def approxEq (s t : Stats V) (tolerance : V) : Bool :=
  s.count == t.count && same s.min t.min && same s.max t.max && sumsClose s.sum t.sum tolerance

@[simp] theorem count_zero : (zero : Stats V).count = 0 := rfl

@[simp] theorem count_addValue (s : Stats V) (v : V) : (s.addValue v).count = s.count + 1 := rfl

@[simp] theorem sum_addValue (s : Stats V) (v : V) : (s.addValue v).sum = add s.sum v := rfl

@[simp] theorem min_addValue (s : Stats V) (v : V) : (s.addValue v).min = least s.min v := rfl

@[simp] theorem max_addValue (s : Stats V) (v : V) : (s.addValue v).max = greatest s.max v := rfl

@[simp] theorem count_merge (s t : Stats V) : (s.merge t).count = s.count + t.count := rfl

@[simp] theorem sum_merge (s t : Stats V) : (s.merge t).sum = add s.sum t.sum := rfl

@[simp] theorem min_merge (s t : Stats V) : (s.merge t).min = least s.min t.min := rfl

@[simp] theorem max_merge (s t : Stats V) : (s.merge t).max = greatest s.max t.max := rfl

end Stats

end Groupwise
