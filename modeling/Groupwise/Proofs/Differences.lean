import Groupwise.Number
import Mathlib

/-!
# Differences of floats

Rounding does to a negative number what it does to its opposite, and the sign of a float is a bit of
its own. So a difference is the same, up to its sign, whichever of the two floats is taken off the
other (`FloatDifference.abs_sub_comm`). A finite float less itself is zero, and nothing has to be
rounded.
-/

namespace Groupwise.FloatDifference

open Float.Model
open Float.Model.UnpackedFloat

variable (spec : Format)

/-! ### Magnitudes of results -/

lemma abs_round (s : Sign) (m : ℕ) (e : ℤ) :
    (UnpackedFloat.round spec s m e).abs = (UnpackedFloat.round spec .positive m e).abs := by
  simp only [UnpackedFloat.round, roundWithAccuracy]
  split <;> rfl

lemma abs_normalize_neg (m e : ℤ) (s : Sign) :
    (UnpackedFloat.normalize spec (-m) e s).abs = (UnpackedFloat.normalize spec m e s).abs := by
  rcases lt_trichotomy m 0 with h | rfl | h
  · rw [UnpackedFloat.normalize, UnpackedFloat.normalize, compare_gt_iff_gt.2 (neg_pos.2 h),
      compare_lt_iff_lt.2 h, abs_round spec .negative]
  · rfl
  · rw [UnpackedFloat.normalize, UnpackedFloat.normalize, compare_lt_iff_lt.2 (neg_neg_iff_pos.2 h),
      compare_gt_iff_gt.2 h, neg_neg, abs_round spec .negative]

/-- Which of two floats is taken off the other decides only the sign. -/
lemma abs_sub_swap (u v : UnpackedFloat) :
    (UnpackedFloat.sub spec u v).abs = (UnpackedFloat.sub spec v u).abs := by
  rcases u with s | _ | s | ⟨s, m, e, hm⟩ <;> rcases v with t | _ | t | ⟨t, n, k, hn⟩
  case finite.finite =>
    simp only [UnpackedFloat.sub, min_comm k e]
    rw [← neg_sub, abs_normalize_neg]
  all_goals first
    | rfl
    | cases s <;> cases t <;> rfl

/-! ### Magnitudes and bits -/

/-- The magnitude of a float is in its exponent and its mantissa. -/
lemma abs_unpack_congr {b c : BitVec spec.numBits} (he : unpackExponent b = unpackExponent c)
    (hm : unpackMantissa b = unpackMantissa c) :
    (UnpackedFloat.unpack spec b).abs = (UnpackedFloat.unpack spec c).abs := by
  simp only [UnpackedFloat.unpack, he, hm]
  split_ifs <;> rfl

/-- A float and its magnitude are packed with the same exponent and the same mantissa. -/
lemma unpack_pack_abs (u : UnpackedFloat) :
    unpackExponent (UnpackedFloat.pack spec u.abs) = unpackExponent (UnpackedFloat.pack spec u) ∧
      unpackMantissa (UnpackedFloat.pack spec u.abs) =
        unpackMantissa (UnpackedFloat.pack spec u) := by
  cases u with
  | notANumber => exact ⟨rfl, rfl⟩
  | infinity s => simp [UnpackedFloat.abs, UnpackedFloat.pack, packedInfinity]
  | zero s => simp [UnpackedFloat.abs, UnpackedFloat.pack, packedZero]
  | finite s m e hm =>
    simp only [UnpackedFloat.abs, UnpackedFloat.pack]
    split_ifs <;> simp [packedInfinity]

lemma abs_unpack_pack (u : UnpackedFloat) :
    (UnpackedFloat.unpack spec (UnpackedFloat.pack spec u.abs)).abs =
      (UnpackedFloat.unpack spec (UnpackedFloat.pack spec u)).abs :=
  abs_unpack_congr spec (unpack_pack_abs spec u).1 (unpack_pack_abs spec u).2

/-! ### Floats -/

lemma abs_sub (x y : Float) :
    (x - y).abs = .ofModel (.pack (UnpackedFloat.unpack .binary64 (UnpackedFloat.pack .binary64
      (UnpackedFloat.sub .binary64 x.toModel.unpack y.toModel.unpack))).abs) := rfl

theorem abs_sub_comm (x y : Float) : (x - y).abs = (y - x).abs := by
  rw [abs_sub, abs_sub, ← abs_unpack_pack, abs_sub_swap, abs_unpack_pack]

theorem sub_self {x : Float} (hx : x.isFinite = true) : x - x = 0.0 := by
  have hzero : UnpackedFloat.sub .binary64 x.toModel.unpack x.toModel.unpack = .zero .positive := by
    have hfinite : x.toModel.unpack.isFinite = true := hx
    cases hu : x.toModel.unpack with
    | notANumber => simp [hu, UnpackedFloat.isFinite] at hfinite
    | infinity s => simp [hu, UnpackedFloat.isFinite] at hfinite
    | zero s => cases s <;> rfl
    | finite s m e hm =>
      simp only [UnpackedFloat.sub, Int.sub_self, UnpackedFloat.normalize]
      rfl
  show Float.ofModel (.pack (UnpackedFloat.sub .binary64 x.toModel.unpack x.toModel.unpack)) = 0.0
  rw [hzero]
  rfl

lemma isFinite_eq_false {x : Float} (hx : x.isInf = true ∨ x.isNaN = true) :
    x.isFinite = false := by
  have hcases : x.toModel.unpack.isInf = true ∨ x.toModel.unpack.isNaN = true := hx
  show x.toModel.unpack.isFinite = false
  cases hu : x.toModel.unpack with
  | notANumber => rfl
  | infinity s => rfl
  | zero s => simp [hu, UnpackedFloat.isInf, UnpackedFloat.isNaN] at hcases
  | finite s m e hm => simp [hu, UnpackedFloat.isInf, UnpackedFloat.isNaN] at hcases

end Groupwise.FloatDifference
