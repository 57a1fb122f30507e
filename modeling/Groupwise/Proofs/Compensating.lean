import Groupwise.Proofs.Exact

/-!
# What a compensated sum carries along

A step of a compensated sum takes the carried error off the value and adds the rest to the sum; what
this addition loses is carried on. Let the subtractions be exact, and let the addition come to any
number whatsoever, another one each time. Still the sum less the carried error grows by exactly the
value (`Compensated.Carries.addWith`). So an accumulator that is put together of values and of other
accumulators reports the exact sum of all of them, and the only rounding that shows is that of the
last subtraction (`RoundedAssembly.sum_exact`).
-/

namespace Groupwise

namespace Exact

/-- The addition whose finite sums are rounded by `round`. -/
def roundedBy (round : ℚ → ℚ → ℚ) : Exact → Exact → Exact
  | finite p, finite q => finite (round p q)
  | a, b => a + b

lemma sub_finite (p q : ℚ) : Number.sub (finite p) (finite q) = finite (p - q) := by
  simp [Number.sub, add, neg, sub_eq_add_neg]

end Exact

open Exact

/-! ### Steps -/

namespace Compensated

variable {total total' : ℚ} {c d : Compensated Exact}

/-- The sum and the carried error are finite, and the difference of them is `total`. -/
def Carries (total : ℚ) (c : Compensated Exact) : Prop :=
  ∃ sum error : ℚ, c = ⟨finite sum, finite error⟩ ∧ sum - error = total

namespace Carries

lemma zero : Carries 0 (Compensated.zero : Compensated Exact) :=
  ⟨0, 0, rfl, sub_zero 0⟩

/-- Whatever number `round` makes of the addition, the error that is carried on makes up for it. -/
lemma addWith (h : Carries total c) (round : ℚ → ℚ → ℚ) (v : ℚ) :
    Carries (total + v) (c.addWith (roundedBy round) (finite v)) := by
  obtain ⟨sum, error, rfl, rfl⟩ := h
  let t := round sum (v - error)
  refine ⟨t, t - sum - (v - error), ?_, by ring⟩
  simp only [Compensated.addWith, sub_finite, roundedBy, t]

/-- The error that the other sum carries is added with its sign turned. -/
lemma combineWith (h : Carries total c) (h' : Carries total' d) (round round' : ℚ → ℚ → ℚ) :
    Carries (total + total') (c.combineWith (roundedBy round) (roundedBy round') d) := by
  obtain ⟨sum, error, rfl, rfl⟩ := h'
  have hsteps := (h.addWith round sum).addWith round' (-error)
  rw [add_assoc, ← sub_eq_add_neg] at hsteps
  exact hsteps

lemma total_eq (h : Carries total c) : c.total = finite total := by
  obtain ⟨sum, error, rfl, rfl⟩ := h
  rw [Compensated.total, sub_finite]

end Carries

end Compensated

/-- A finite total is reported, whatever the plain sum has come to. -/
lemma Accumulator.sum_of_carries {total : ℚ} {a : Accumulator Exact}
    (h : a.compensated.Carries total) : a.sum = finite total := by
  rw [Accumulator.sum, h.total_eq]
  rfl

/-! ### Accumulators -/

/-- A way to put an accumulator together, along with what each compensated addition comes to. -/
inductive RoundedAssembly
  /-- No value is taken in. -/
  | empty
  /-- One more value. -/
  | accept (t : RoundedAssembly) (v : ℚ) (round : ℚ → ℚ → ℚ)
  /-- The values of another accumulator, in two additions. -/
  | combine (l r : RoundedAssembly) (round round' : ℚ → ℚ → ℚ)

namespace RoundedAssembly

/-- The values that are taken in. -/
def values : RoundedAssembly → Multiset ℚ
  | empty => 0
  | accept t v _ => v ::ₘ t.values
  | combine l r _ _ => l.values + r.values

/-- The accumulator that is put together. -/
def accumulator : RoundedAssembly → Accumulator Exact
  | empty => .empty
  | accept t v round => t.accumulator.acceptWith (roundedBy round) (finite v)
  | combine l r round round' =>
    l.accumulator.combineWith (roundedBy round) (roundedBy round') r.accumulator

lemma carries (t : RoundedAssembly) : t.accumulator.compensated.Carries t.values.sum := by
  induction t with
  | empty => exact .zero
  | accept t v round ih =>
    rw [values, Multiset.sum_cons, add_comm]
    exact ih.addWith round v
  | combine l r round round' ihl ihr =>
    rw [values, Multiset.sum_add]
    exact ihl.combineWith ihr round round'

/-- However values and accumulators are taken in and whatever the additions are rounded to, the
stored sum less the stored error is the exact sum of all values. It is the sum that is reported,
and it does not depend on the plain sum that is kept beside it. -/
theorem sum_exact (t : RoundedAssembly) :
    (∃ sum error : ℚ, t.accumulator.compensated = ⟨finite sum, finite error⟩ ∧
      sum - error = t.values.sum) ∧
    t.accumulator.sum = t.accumulator.compensated.total ∧
    t.accumulator.sum = finite t.values.sum ∧
    ∀ plain : Exact,
      ({ t.accumulator with plainSum := plain } : Accumulator Exact).sum =
        finite t.values.sum := by
  have hcarries := t.carries
  refine ⟨hcarries, ?_, Accumulator.sum_of_carries hcarries, ?_⟩
  · rw [Accumulator.sum_of_carries hcarries, hcarries.total_eq]
  · intro plain
    exact Accumulator.sum_of_carries hcarries

/-- Additions that all come to seven; the carried error is what they are off by. -/
example : ((empty.accept 1 fun _ _ => 7).accept (-2) fun _ _ => 7).accumulator.compensated =
    ⟨finite 7, finite 8⟩ := by
  decide +kernel

end RoundedAssembly

end Groupwise
