import Groupwise.Proofs.Extremes
import Groupwise.Stats.Accumulator

/-!
# Exact numbers

The rational numbers with both infinities and one value that is not a number: what floats would be
if nothing were ever rounded. Sums of exact numbers do not depend on the order of the values or on
brackets.

A compensated sum of exact numbers has nothing to compensate as long as its values are finite, and
after the first one that is not, the carried error is not a number. The plain running sum tells what
became of it (`Accumulator.sum_eq`).
-/

namespace Groupwise

/-- Rational numbers, infinities, and not-a-number. -/
inductive Exact
  | nan
  | negInf
  | finite (q : ℚ)
  | posInf
deriving DecidableEq

namespace Exact

/-! ### Arithmetic -/

def add : Exact → Exact → Exact
  | nan, _ | _, nan | posInf, negInf | negInf, posInf => nan
  | posInf, _ | _, posInf => posInf
  | negInf, _ | _, negInf => negInf
  | finite p, finite q => finite (p + q)

def neg : Exact → Exact
  | nan => nan
  | negInf => posInf
  | finite q => finite (-q)
  | posInf => negInf

def abs : Exact → Exact
  | nan => nan
  | negInf | posInf => posInf
  | finite q => finite |q|

def scale (n : Nat) : Exact → Exact
  | finite q => finite (n * q)
  | a => if n = 0 then nan else a

/-- Division by zero leaves the sign only. -/
def share (a : Exact) (n : Nat) : Exact :=
  match a with
  | finite q =>
    if n ≠ 0 then finite (q / n) else if 0 < q then posInf else if q < 0 then negInf else nan
  | a => a

def lt : Exact → Exact → Bool
  | finite p, finite q => decide (p < q)
  | negInf, finite _ | negInf, posInf | finite _, posInf => true
  | _, _ => false

def le : Exact → Exact → Bool
  | nan, _ | _, nan => false
  | finite p, finite q => decide (p ≤ q)
  | negInf, _ | _, posInf => true
  | _, _ => false

def isFinite : Exact → Bool
  | finite _ => true
  | _ => false

instance : Number Exact where
  zero := finite 0
  posInf := posInf
  negInf := negInf
  add := add
  sub a b := add a (neg b)
  neg := neg
  abs := abs
  scale := scale
  share := share
  lt := lt
  le := le
  same a b := decide (a = b)
  isNaN a := decide (a = nan)
  isFinite := isFinite
  isInfinite a := decide (a = posInf ∨ a = negInf)

/-! ### Sums -/

instance : Add Exact := ⟨add⟩

instance : Zero Exact := ⟨finite 0⟩

lemma zero_def : (0 : Exact) = finite 0 := rfl

@[simp] lemma finite_add (p q : ℚ) : finite p + finite q = finite (p + q) := rfl

lemma add_comm' (a b : Exact) : a + b = b + a := by
  cases a <;> cases b <;> first
    | rfl
    | rw [finite_add, finite_add, add_comm]

lemma add_assoc' (a b c : Exact) : a + b + c = a + (b + c) := by
  cases a <;> cases b <;> cases c <;> first
    | rfl
    | simp only [finite_add, add_assoc]

lemma zero_add' (a : Exact) : 0 + a = a := by
  cases a with
  | finite q => rw [zero_def, finite_add, zero_add]
  | _ => rfl

instance : AddCommMonoid Exact where
  add_assoc := add_assoc'
  add_comm := add_comm'
  zero_add := zero_add'
  add_zero a := by rw [add_comm', zero_add']
  nsmul := nsmulRec

/-! ### Order -/

/-- The place of a number on the line. -/
def rank : Exact → ℤ ×ₗ ℚ
  | negInf => toLex (-1, 0)
  | nan => toLex (0, 0)
  | finite q => toLex (0, q)
  | posInf => toLex (1, 0)

lemma le_iff_rank (a b : Exact) :
    Number.le a b = true ↔ Number.isNaN a = false ∧ Number.isNaN b = false ∧ rank a ≤ rank b := by
  cases a <;> cases b <;>
    simp [Number.le, Number.isNaN, le, rank, Prod.Lex.toLex_le_toLex]

lemma lt_iff_rank {a b : Exact} (ha : Number.isNaN a = false) (hb : Number.isNaN b = false) :
    Number.lt a b = true ↔ rank a < rank b := by
  cases a <;> cases b <;>
    simp_all [Number.lt, Number.isNaN, lt, rank, Prod.Lex.toLex_lt_toLex]

instance : OrderedNumber Exact := by
  refine orderedNumber_of_rank rank le_iff_rank (fun _ _ => lt_iff_rank) rfl rfl (fun a => ?_)
    fun a => ?_
  · cases a <;> simp [Number.posInf, rank, Prod.Lex.toLex_le_toLex]
  · cases a <;> simp [Number.negInf, rank, Prod.Lex.toLex_le_toLex]

/-- There is one zero. -/
lemma eq_of_equal {a b : Exact} (h : Number.equal a b = true) : a = b := by
  rw [Number.equal, Bool.and_eq_true, le_iff_rank, le_iff_rank] at h
  obtain ⟨⟨ha, hb, hab⟩, -, -, hba⟩ := h
  have hrank : rank a = rank b := le_antisymm hab hba
  cases a <;> cases b <;> simp_all [rank, Number.isNaN]

/-! ### Compensated sums -/

lemma sub_nan (a : Exact) : Number.sub a nan = nan := by
  cases a <;> rfl

lemma isFinite_add_eq_false {a : Exact} (ha : a.isFinite = false) (b : Exact) :
    (a + b).isFinite = false := by
  cases a <;> cases b <;> first
    | rfl
    | simp [isFinite] at ha

/-- The compensated sum of values that add up to `total`. -/
inductive Tracks : Exact → Compensated Exact → Prop
  /-- Nothing was lost, so nothing is carried. -/
  | exactly (q : ℚ) : Tracks (finite q) ⟨finite q, finite 0⟩
  /-- A value was not finite. -/
  | spoiled {total : Exact} {c : Compensated Exact} (h : total.isFinite = false)
      (hc : c.compensation = nan) : Tracks total c

namespace Tracks

variable {total total' : Exact} {c d : Compensated Exact}

lemma addValue (h : Tracks total c) (v : Exact) : Tracks (total + v) (c.addValue v) := by
  cases h with
  | exactly q =>
    cases v with
    | finite p =>
      have hstep : Compensated.addValue ⟨finite q, finite 0⟩ (finite p) =
          ⟨finite (q + p), finite 0⟩ := by
        simp [Compensated.addValue, Compensated.addWith, Number.sub, Number.add, add, neg]
      rw [hstep]
      exact .exactly (q + p)
    | _ => exact .spoiled rfl rfl
  | spoiled h hc =>
    refine .spoiled (isFinite_add_eq_false h v) ?_
    simp only [Compensated.addValue, Compensated.addWith, hc, sub_nan]

/-- The error that another sum carries is added too; it is zero or not a number. -/
lemma combine (h : Tracks total c) (h' : Tracks total' d) :
    Tracks (total + total') (c.combine d) := by
  cases h' with
  | exactly q =>
    have hsum := (h.addValue (finite q)).addValue (Number.neg (finite 0))
    have hzero : Number.neg (finite 0) = (0 : Exact) := congrArg finite neg_zero
    rwa [hzero, add_zero, ← hzero] at hsum
  | @spoiled _ _ h' hc =>
    rw [add_comm]
    refine .spoiled (isFinite_add_eq_false h' total) ?_
    have hneg : Number.neg d.compensation = nan := by rw [hc]; rfl
    simp only [Compensated.combine, Compensated.combineWith, hneg, Compensated.addWith]
    exact sub_nan _

end Tracks

/-- The sum that an accumulator reports: the plain one makes up for what infinities have spoiled. -/
lemma sum_eq {total : Exact} {a : Accumulator Exact} (h : Tracks total a.compensated)
    (hplain : a.plainSum = total) : a.sum = total := by
  rw [Accumulator.sum, hplain, Compensated.total]
  generalize a.compensated = c at h
  cases h with
  | exactly q =>
    have htotal : Number.sub (finite q) (finite 0) = finite q := by
      simp [Number.sub, add, neg]
    rw [htotal]
    rfl
  | spoiled h hc =>
    rw [hc, sub_nan]
    cases total with
    | finite q => simp [isFinite] at h
    | _ => rfl

end Exact

end Groupwise
