/-!
# Numbers that can be summarized

A summary of measured values adds its values up, keeps the least and the greatest of them, and is
compared with another summary within a tolerance. `Number V` lists what this takes from the type
`V` of the values. Programs run on `Float`; every definition of the library that only needs these
operations is stated for an arbitrary `V`.
-/

namespace Groupwise

/-- The operations on measured values that summaries are built from. -/
class Number (V : Type) where
  /-- The sum of no values. -/
  zero : V
  /-- Greater than every value: the least of no values. -/
  posInf : V
  /-- Less than every value: the greatest of no values. -/
  negInf : V
  add : V → V → V
  sub : V → V → V
  neg : V → V
  abs : V → V
  /-- A value times a natural number. -/
  scale : Nat → V → V
  /-- A value divided by a natural number. -/
  share : V → Nat → V
  lt : V → V → Bool
  le : V → V → Bool
  /-- One and the same value: not-a-number is the same as itself, the two zeros differ. -/
  same : V → V → Bool
  isNaN : V → Bool
  isFinite : V → Bool
  isInfinite : V → Bool

namespace Number

variable {V : Type} [Number V]

/-- The smaller of two values; not-a-number counts as no value at all. -/
def least (a b : V) : V :=
  if isNaN a then b else if isNaN b then a else if lt b a then b else a

/-- The larger of two values; not-a-number counts as no value at all. -/
def greatest (a b : V) : V :=
  if isNaN a then b else if isNaN b then a else if lt a b then b else a

/-- Numerically equal: the two zeros are, not-a-number is not even equal to itself. -/
def equal (a b : V) : Bool := le a b && le b a

/-- Two sums agree: finite ones when they are at most `tolerance` apart, others when they are the
same value. -/
def sumsClose (a b tolerance : V) : Bool :=
  if isFinite a && isFinite b then le (abs (sub a b)) tolerance else same a b

end Number

instance : Number Float where
  zero := 0.0
  posInf := 1.0 / 0.0
  negInf := -1.0 / 0.0
  add := (· + ·)
  sub := (· - ·)
  neg := (- ·)
  abs := Float.abs
  scale n v := n.toFloat * v
  share v n := v / n.toFloat
  lt a b := decide (a < b)
  le a b := decide (a ≤ b)
  same a b := decide (a.toBits = b.toBits)
  isNaN := Float.isNaN
  isFinite := Float.isFinite
  isInfinite := Float.isInf

end Groupwise
