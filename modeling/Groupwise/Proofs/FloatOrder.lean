import Groupwise.Proofs.Extremes

/-!
# Floats are ordered numbers

Two floats that are numbers compare as their ranks do: first the sign and whether the value is
infinite, then the exponent, and then the mantissa, both of them backwards for negative values. The
two zeros have one rank.
-/

namespace Groupwise

open Float.Model
open Float.Model.UnpackedFloat (Sign)

namespace FloatOrder

/-- The place of a number on the line. -/
def rank : UnpackedFloat → ℤ ×ₗ (ℤ ×ₗ ℤ)
  | .infinity .negative => toLex (-2, toLex (0, 0))
  | .finite .negative m e _ => toLex (-1, toLex (-e, -m))
  | .notANumber | .zero _ => toLex (0, toLex (0, 0))
  | .finite .positive m e _ => toLex (1, toLex (e, m))
  | .infinity .positive => toLex (2, toLex (0, 0))

@[simp] lemma compare_sign_self (s : Sign) : compare s s = .eq := by
  cases s <;> rfl

@[simp] lemma compare_negative_positive : compare Sign.negative Sign.positive = .lt := rfl

@[simp] lemma compare_positive_negative : compare Sign.positive Sign.negative = .gt := rfl

/-- The comparison of negative values is that of positive ones the other way round. -/
lemma swap_then_compare (e f : ℤ) (m n : ℕ) :
    ((compare e f).then (compare m n)).swap = (compare f e).then (compare n m) := by
  rw [Ordering.swap_then, Std.OrientedOrd.eq_swap (a := f), Std.OrientedOrd.eq_swap (a := n)]

lemma then_isLE (e f : ℤ) (m n : ℕ) :
    ((compare e f).then (compare m n)).isLE = true ↔ e < f ∨ e = f ∧ m ≤ n := by
  rcases lt_trichotomy e f with h | rfl | h
  · simp [compare_lt_iff_lt.2 h, h]
  · simp [← compare_le_iff_le, Ordering.isLE_iff_ne_gt]
  · simp [compare_gt_iff_gt.2 h, h.not_gt, h.ne']

lemma then_eq_lt (e f : ℤ) (m n : ℕ) :
    (compare e f).then (compare m n) = .lt ↔ e < f ∨ e = f ∧ m < n := by
  rcases lt_trichotomy e f with h | rfl | h
  · simp [compare_lt_iff_lt.2 h, h]
  · simp [compare_lt_iff_lt]
  · simp [compare_gt_iff_gt.2 h, h.not_gt, h.ne']

lemma then_isGE (e f : ℤ) (m n : ℕ) :
    ((compare e f).then (compare m n)).isGE = true ↔ f < e ∨ e = f ∧ n ≤ m := by
  rw [← Ordering.isLE_swap, swap_then_compare, then_isLE, eq_comm]

lemma then_eq_gt (e f : ℤ) (m n : ℕ) :
    (compare e f).then (compare m n) = .gt ↔ f < e ∨ e = f ∧ n < m := by
  rw [← Ordering.swap_eq_lt, swap_then_compare, then_eq_lt, eq_comm]

lemma le_iff_rank (a b : UnpackedFloat) :
    a.le b = true ↔ a.isNaN = false ∧ b.isNaN = false ∧ rank a ≤ rank b := by
  rcases a with (_ | _) | _ | (_ | _) | ⟨_ | _, m, e, hm⟩ <;>
    rcases b with (_ | _) | _ | (_ | _) | ⟨_ | _, n, f, hn⟩ <;>
    simp [UnpackedFloat.le, UnpackedFloat.compare, UnpackedFloat.isNaN, rank,
      Prod.Lex.toLex_le_toLex, then_isLE, then_isGE]

lemma lt_iff_rank {a b : UnpackedFloat} (ha : a.isNaN = false) (hb : b.isNaN = false) :
    a.lt b = true ↔ rank a < rank b := by
  rcases a with (_ | _) | _ | (_ | _) | ⟨_ | _, m, e, hm⟩ <;>
    rcases b with (_ | _) | _ | (_ | _) | ⟨_ | _, n, f, hn⟩ <;>
    simp_all [UnpackedFloat.lt, UnpackedFloat.compare, UnpackedFloat.isNaN, rank,
      Prod.Lex.toLex_lt_toLex, then_eq_lt, then_eq_gt]

lemma rank_le_posInf (a : UnpackedFloat) : rank a ≤ rank (.infinity .positive) := by
  rcases a with (_ | _) | _ | (_ | _) | ⟨_ | _, m, e, hm⟩ <;>
    simp [rank, Prod.Lex.toLex_le_toLex]

lemma negInf_le_rank (a : UnpackedFloat) : rank (.infinity .negative) ≤ rank a := by
  rcases a with (_ | _) | _ | (_ | _) | ⟨_ | _, m, e, hm⟩ <;>
    simp [rank, Prod.Lex.toLex_le_toLex]

lemma float_le (a b : Float) : Number.le a b = a.toModel.unpack.le b.toModel.unpack := by
  rw [Bool.eq_iff_iff]
  show decide (a.le b = true) = true ↔ _
  rw [decide_eq_true_iff, Float.le]
  show decide (a.toModel.unpack.le b.toModel.unpack = true) = true ↔ _
  rw [decide_eq_true_iff]

lemma float_lt (a b : Float) : Number.lt a b = a.toModel.unpack.lt b.toModel.unpack := by
  rw [Bool.eq_iff_iff]
  show decide (a.lt b = true) = true ↔ _
  rw [decide_eq_true_iff, Float.lt]
  show decide (a.toModel.unpack.lt b.toModel.unpack = true) = true ↔ _
  rw [decide_eq_true_iff]

end FloatOrder

open FloatOrder in
instance : OrderedNumber Float := by
  refine orderedNumber_of_rank (fun a => rank a.toModel.unpack) (fun a b => ?_)
    (fun a b ha hb => ?_) ?_ ?_ (fun a => rank_le_posInf _) fun a => negInf_le_rank _
  · rw [float_le]
    exact le_iff_rank _ _
  · rw [float_lt]
    exact lt_iff_rank ha hb
  · decide
  · decide

end Groupwise
