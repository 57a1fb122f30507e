import Groupwise.Decimal
import Groupwise.Proofs.Packing
import Mathlib

/-!
# Decimals are read as the nearest floats

However a decimal is read, by one multiplication or division of exact floats or by one rounding of
an exact number, it gives the float nearest to its value (`Decimal.toFloat_eq`). So decimals of one
value give one float, and the exact decimal of a float gives that float back.
-/

namespace Groupwise

open Float.Model
open Float.Model.UnpackedFloat
open Rounded

namespace Rounded

/-- The float nearest to a positive number. -/
def float (q : ℚ) : Float := .ofModel (Float.Model.pack (nearest q))

lemma round_eq {m : ℕ} (hm : 0 < m) (e : ℤ) :
    round .binary64 .positive m e = nearest (m * 2 ^ e) := by
  have hpos := mul_zpow_pos hm e
  have hlog : Int.log 2 ((m : ℚ) * 2 ^ e) = m.log2 + e := by
    refine log_eq hpos (zpow_log2_le hm e) ?_
    rw [add_right_comm]
    exact lt_zpow_log2 m e
  have htarget : Format.binary64.targetExponent (totalExponent m e) = lastPlace (m * 2 ^ e) := by
    rw [targetExponent_eq, totalExponent, lastPlace, hlog]
    omega
  rw [UnpackedFloat.round, htarget]
  refine roundWithAccuracy_eq hpos ?_ (by omega)
  have hvalue : (m : ℚ) * 2 ^ e / 2 ^ (e - ((e - lastPlace (m * 2 ^ e)).toNat : ℤ)) =
      (m <<< (e - lastPlace (m * 2 ^ e)).toNat : ℕ) := by
    rw [Nat.shiftLeft_eq, Nat.cast_mul, Nat.cast_pow, Nat.cast_ofNat, ← zpow_natCast,
      zpow_sub₀ (by norm_num)]
    field_simp
  rw [hvalue]
  exact .exact _

lemma toFloat_toUInt64 {n : ℕ} (hpos : 0 < n) (hlt : n < 2 ^ 53) :
    n.toUInt64.toFloat = float n := by
  have hword : n.toUInt64.toNat = n := by
    rw [Nat.toUInt64_eq, UInt64.toNat_ofNat', Nat.mod_eq_of_lt (by omega)]
  have hcompare : compare (n : ℤ) 0 = .gt := compare_gt_iff_gt.2 (by exact_mod_cast hpos)
  have hround := round_eq hpos 0
  rw [zpow_zero, mul_one] at hround
  show Float.ofModel (Float.Model.pack (UnpackedFloat.ofInt .binary64 n.toUInt64.toNat)) = _
  rw [hword, UnpackedFloat.ofInt, UnpackedFloat.normalize, hcompare]
  simp only [Int.toNat_natCast, hround]
  rfl

/-- The whole numbers below `2 ^ 53` are exact floats. -/
lemma exists_unpack_float {n : ℕ} (hpos : 0 < n) (hlt : n < 2 ^ 53) :
    ∃ (m : ℕ) (e : ℤ) (hm : 0 < m), (float n).toModel.unpack = .finite .positive m e hm ∧
      2 ^ 52 ≤ m ∧ (m : ℚ) * 2 ^ e = n := by
  obtain ⟨m, e, h, hm, he, hvalue⟩ := exists_canonical hpos hlt
  refine ⟨m, e, h.pos, ?_, hm, hvalue.symm⟩
  rw [float, hvalue, nearest_of_canonical h]
  exact unpack_pack .positive h (by omega)

/-! ### Powers of ten -/

/-- The float is positive and finite. -/
def IsPositive : UnpackedFloat → Bool
  | .finite .positive _ _ _ => true
  | _ => false

lemma exists_of_isPositive {u : UnpackedFloat} (h : IsPositive u = true) :
    ∃ m e hm, u = .finite .positive m e hm := by
  match u, h with
  | .finite .positive m e hm, _ => exact ⟨m, e, hm, rfl⟩

lemma mul_zpow_eq {m n : ℕ} {e : ℤ} (h : m * 2 ^ e.toNat = n * 2 ^ (-e).toNat) :
    (m : ℚ) * 2 ^ e = n := by
  have hexponent : e = e.toNat - (-e).toNat := by omega
  have hcast : (m : ℚ) * 2 ^ e.toNat = n * 2 ^ (-e).toNat := by exact_mod_cast h
  rw [hexponent, zpow_sub₀ (by norm_num), zpow_natCast, zpow_natCast, ← mul_div_assoc, hcast]
  field_simp

/-- The powers of ten up to `10 ^ 22` are exact floats. -/
lemma exists_unpack_powerOfTen (k : Fin 23) :
    ∃ (m : ℕ) (e : ℤ) (hm : 0 < m),
      (Float.exactlyRepresentablePowersOfTen[k]).toModel.unpack = .finite .positive m e hm ∧
        (m : ℚ) * 2 ^ e = 10 ^ (k : ℕ) := by
  have hpositive : ∀ k : Fin 23,
      IsPositive (Float.exactlyRepresentablePowersOfTen[k]).toModel.unpack = true := by
    decide +kernel
  have hvalue : ∀ k : Fin 23,
      (Binary.ofFloat Float.exactlyRepresentablePowersOfTen[k]).mantissa *
          2 ^ (Binary.ofFloat Float.exactlyRepresentablePowersOfTen[k]).exponent.toNat =
        10 ^ (k : ℕ) *
          2 ^ (-(Binary.ofFloat Float.exactlyRepresentablePowersOfTen[k]).exponent).toNat := by
    decide +kernel
  obtain ⟨m, e, hm, h⟩ := exists_of_isPositive (hpositive k)
  have hk := hvalue k
  rw [(of_unpack_eq_finite h).1] at hk
  refine ⟨m, e, hm, h, ?_⟩
  exact_mod_cast mul_zpow_eq hk

/-! ### Products and quotients of floats -/

lemma float_mul {a b : Float} {m₁ m₂ : ℕ} {e₁ e₂ : ℤ} {h₁ : 0 < m₁} {h₂ : 0 < m₂}
    (ha : a.toModel.unpack = .finite .positive m₁ e₁ h₁)
    (hb : b.toModel.unpack = .finite .positive m₂ e₂ h₂) (hm : 2 ^ 52 ≤ m₁) :
    a * b = float (m₁ * 2 ^ e₁ * (m₂ * 2 ^ e₂)) := by
  have hplace : e₁ + e₂ ≤ lastPlace ((m₁ : ℚ) * 2 ^ e₁ * (m₂ * 2 ^ e₂)) := by
    refine le_lastPlace_of_le (by positivity) ?_
    have hone : (1 : ℚ) ≤ m₂ := by exact_mod_cast h₂
    have hleading : (2 : ℚ) ^ 52 ≤ m₁ := by exact_mod_cast hm
    calc (2 : ℚ) ^ (e₁ + e₂ + 52) = 2 ^ 52 * 2 ^ e₁ * (1 * 2 ^ e₂) := by
          rw [zpow_add₀ (by norm_num), zpow_add₀ (by norm_num)]
          norm_cast
          ring
      _ ≤ m₁ * 2 ^ e₁ * (m₂ * 2 ^ e₂) := by gcongr
  show Float.ofModel (Float.Model.pack (UnpackedFloat.mul .binary64 _ _)) = _
  rw [ha, hb, mul_eq hplace]
  rfl

lemma float_div {a b : Float} {m₁ m₂ : ℕ} {e₁ e₂ : ℤ} {h₁ : 0 < m₁} {h₂ : 0 < m₂}
    (ha : a.toModel.unpack = .finite .positive m₁ e₁ h₁)
    (hb : b.toModel.unpack = .finite .positive m₂ e₂ h₂) :
    a / b = float (m₁ * 2 ^ e₁ / (m₂ * 2 ^ e₂)) := by
  show Float.ofModel (Float.Model.pack (UnpackedFloat.div .binary64 _ _)) = _
  rw [ha, hb, div_eq h₁ h₂]
  rfl

/-! ### Very large and very small numbers -/

lemma float_of_large {q : ℚ} (h : 2 ^ (1024 : ℤ) ≤ q) :
    float q = .ofModel (Float.Model.pack (.infinity .positive)) := by
  have hq : 0 < q := (two_zpow_pos 1024).trans_le h
  have hplace : 972 ≤ lastPlace q := le_lastPlace_of_le hq h
  have hunits : 1 ≤ q / 2 ^ lastPlace q := by
    have hlog : lastPlace q ≤ Int.log 2 q := by
      rw [lastPlace] at hplace ⊢
      omega
    rw [le_div_iff₀ (two_zpow_pos _), one_mul]
    calc (2 : ℚ) ^ lastPlace q ≤ 2 ^ Int.log 2 q := zpow_le_zpow_right₀ (by norm_num) hlog
      _ ≤ q := Int.zpow_log_le_self (by decide) hq
  have hne : toEven (q / 2 ^ lastPlace q) ≠ 0 := by
    have hfloor : 1 ≤ ⌊q / 2 ^ lastPlace q⌋₊ := Nat.le_floor (by exact_mod_cast hunits)
    rw [toEven]
    split_ifs <;> omega
  have hpack : ∀ (m : ℕ) (e : ℤ) (hm : 0 < m), 972 ≤ e →
      Float.Model.pack (.finite .positive m e hm) = Float.Model.pack (.infinity .positive) := by
    intro m e hm he
    have hlarge : 2 ^ Format.binary64.exponentBits ≤
          (e + Format.binary64.exponentBias +
            Format.binary64.mantissaBitsWithoutImplicit).toNat + 1 := by
      show 2 ^ 11 ≤ (e + 1023 + 52).toNat + 1
      omega
    simp only [Float.Model.pack, UnpackedFloat.pack, hlarge, ↓reduceIte]
  rw [float, nearest, ofUnits, dif_neg hne]
  split_ifs
  · rw [hpack _ _ _ hplace]
  · rw [hpack _ _ _ (by omega)]

lemma float_of_small {q : ℚ} (hq : 0 < q) (h : q < 2 ^ (-1075 : ℤ)) :
    float q = .ofModel (Float.Model.pack (.zero .positive)) := by
  have hlog : Int.log 2 q < -1075 := (Int.lt_zpow_iff_log_lt (by decide) hq).1 (by exact_mod_cast h)
  have hplace : lastPlace q = -1074 := by
    rw [lastPlace]
    omega
  have hunits : toEven (q / 2 ^ lastPlace q) = 0 := by
    refine toEven_eq_zero ?_
    rw [hplace, div_lt_iff₀ (two_zpow_pos _)]
    calc q < 2 ^ (-1075 : ℤ) := h
      _ = 1 / 2 * 2 ^ (-1074 : ℤ) := by
        rw [show (-1075 : ℤ) = -1 + -1074 by norm_num, zpow_add₀ (by norm_num)]
        norm_num
  rw [float, nearest, hunits]
  rfl

end Rounded

/-! ### Decimals -/

namespace Decimal

/-- The number that a decimal stands for. -/
def value (d : Decimal) : ℚ := d.coefficient * 10 ^ d.exponent

lemma value_pos {d : Decimal} (hd : 0 < d.coefficient) : 0 < d.value :=
  mul_pos (by exact_mod_cast hd) (zpow_pos (by norm_num) _)

/-- A short coefficient and a small exponent take one multiplication or division. -/
lemma toFloat_of_short {d : Decimal} (hd : 0 < d.coefficient) (hshort : d.coefficient < 2 ^ 53)
    (hsmall : d.exponent.natAbs ≤ 22) : d.toFloat = float d.value := by
  obtain ⟨m, e, hm, hc, hnormal, hcoefficient⟩ := exists_unpack_float hd hshort
  obtain ⟨n, k, hn, hp, hpower⟩ := exists_unpack_powerOfTen ⟨d.exponent.natAbs, by omega⟩
  rw [← toFloat_toUInt64 hd hshort] at hc
  rw [toFloat, Float.ofScientific, dif_pos ⟨hshort, hsmall⟩]
  by_cases hneg : d.exponent < 0
  · have hvalue : (d.coefficient : ℚ) / 10 ^ d.exponent.natAbs = d.value := by
      rw [value, show d.exponent = -(d.exponent.natAbs : ℤ) by omega, zpow_neg, zpow_natCast,
        Int.natAbs_neg, Int.natAbs_natCast]
      rfl
    simp only [hneg, decide_true, ↓reduceIte]
    refine (float_div hc hp).trans ?_
    rw [hcoefficient, hpower, hvalue]
  · have hvalue : (d.coefficient : ℚ) * 10 ^ d.exponent.natAbs = d.value := by
      rw [value, ← zpow_natCast, Int.natAbs_of_nonneg (by omega)]
    simp only [hneg, decide_false, Bool.false_eq_true, ↓reduceIte]
    refine (float_mul hc hp hnormal).trans ?_
    rw [hcoefficient, hpower, hvalue]

lemma ten_zpow_le_two_zpow {e : ℤ} (he : e ≤ 0) : (10 : ℚ) ^ e ≤ 2 ^ e := by
  obtain ⟨n, rfl⟩ := Int.exists_eq_neg_ofNat he
  rw [zpow_neg, zpow_neg, zpow_natCast, zpow_natCast]
  gcongr
  norm_num

lemma two_zpow_le_ten_zpow {e : ℤ} (he : 0 ≤ e) : (2 : ℚ) ^ e ≤ 10 ^ e := by
  obtain ⟨n, rfl⟩ := Int.eq_ofNat_of_zero_le he
  rw [zpow_natCast, zpow_natCast]
  gcongr
  norm_num

lemma pack_ofScientific {d : Decimal} (hd : 0 < d.coefficient) :
    Float.ofModel
        (Float.Model.pack (UnpackedFloat.ofScientific .binary64 d.coefficient d.exponent)) =
      float d.value := by
  have hone : (1 : ℚ) ≤ d.coefficient := by exact_mod_cast hd
  have hpos := value_pos hd
  rw [UnpackedFloat.ofScientific, dif_neg hd.ne']
  split_ifs with hlarge hsmall hnonneg
  · have hlarge' : (2048 : ℤ) < d.exponent := hlarge
    refine (float_of_large ?_).symm
    calc (2 : ℚ) ^ (1024 : ℤ) ≤ 2 ^ d.exponent := zpow_le_zpow_right₀ (by norm_num) (by omega)
      _ ≤ 10 ^ d.exponent := two_zpow_le_ten_zpow (by omega)
      _ ≤ d.value := le_mul_of_one_le_left (by positivity) hone
  · have hsmall' : d.exponent < -(2048 + (d.coefficient.log2 : ℤ)) := hsmall
    refine (float_of_small hpos ?_).symm
    calc d.value ≤ d.coefficient * 2 ^ d.exponent := by
          rw [value]
          gcongr
          exact ten_zpow_le_two_zpow (by omega)
      _ < 2 ^ (d.coefficient.log2 + 1 + d.exponent : ℤ) := lt_zpow_log2 _ _
      _ ≤ 2 ^ (-1075 : ℤ) := zpow_le_zpow_right₀ (by norm_num) (by omega)
  · have hten : (10 : ℚ) ^ d.exponent = (10 ^ d.exponent.toNat : ℕ) := by
      rw [Nat.cast_pow, Nat.cast_ofNat, ← zpow_natCast, Int.toNat_of_nonneg hnonneg]
    have hpower : d.value = (d.coefficient <<< 53 : ℕ) * 2 ^ (-53 : ℤ) *
        ((10 ^ d.exponent.toNat : ℕ) * 2 ^ (0 : ℤ)) := by
      rw [value, hten, Nat.shiftLeft_eq, Nat.cast_mul, zpow_zero, mul_one,
        mul_assoc _ _ (2 ^ (-53 : ℤ))]
      norm_num
    have hplace : (-53 : ℤ) + 0 ≤ lastPlace d.value := by
      refine le_lastPlace_of_le hpos ?_
      calc (2 : ℚ) ^ (-53 + 0 + 52 : ℤ) ≤ 1 := by norm_num
        _ ≤ d.coefficient * 1 := by linarith
        _ ≤ d.value := by
          rw [value]
          gcongr
          exact one_le_zpow₀ (by norm_num) hnonneg
    rw [hpower] at hplace
    refine congrArg (fun u => Float.ofModel (Float.Model.pack u)) ((mul_eq hplace).trans ?_)
    rw [hpower]
  · have hpower : d.value = d.coefficient * 2 ^ (0 : ℤ) /
        ((10 ^ (-d.exponent).toNat : ℕ) * 2 ^ (0 : ℤ)) := by
      rw [value, Nat.cast_pow, ← zpow_natCast, Int.toNat_of_nonneg (by omega), zpow_neg]
      norm_num
    refine congrArg (fun u => Float.ofModel (Float.Model.pack u)) ((div_eq _ _).trans ?_)
    rw [hpower]

/-- A decimal is read as the float nearest to its value. -/
theorem toFloat_eq {d : Decimal} (hd : 0 < d.coefficient) : d.toFloat = float d.value := by
  by_cases hshort : d.coefficient < 2 ^ 53 ∧ d.exponent.natAbs ≤ 22
  · exact toFloat_of_short hd hshort.1 hshort.2
  · have hexponent : (if decide (d.exponent < 0) then Int.negOfNat d.exponent.natAbs
        else Int.ofNat d.exponent.natAbs) = d.exponent := by
      by_cases hneg : d.exponent < 0
      · simp only [hneg, decide_true, ↓reduceIte, Int.negOfNat_eq, Int.ofNat_eq_natCast]
        omega
      · simp only [hneg, decide_false, Bool.false_eq_true, ↓reduceIte, Int.ofNat_eq_natCast]
        omega
    rw [← pack_ofScientific hd, toFloat, Float.ofScientific, dif_neg hshort]
    simp only [hexponent]
    rfl

/-- Decimals of one value are read as one float. -/
lemma toFloat_congr {d d' : Decimal} (hd : 0 < d.coefficient) (h : d.value = d'.value) :
    d.toFloat = d'.toFloat := by
  have hd' : 0 < d'.coefficient := by
    by_contra hzero
    have hvalue := value_pos hd
    rw [h, value, Nat.eq_zero_of_not_pos hzero, Nat.cast_zero, zero_mul] at hvalue
    exact lt_irrefl _ hvalue
  rw [toFloat_eq hd, toFloat_eq hd', h]

lemma toFloat_zero (e : ℤ) : (⟨0, e⟩ : Decimal).toFloat = 0.0 := by
  have hpowers : ∀ k : Fin 23, Nat.toFloat 0 / Float.exactlyRepresentablePowersOfTen[k] = 0.0 ∧
      Nat.toFloat 0 * Float.exactlyRepresentablePowersOfTen[k] = 0.0 := by
    decide +kernel
  have hlong : Float.ofModel (Float.Model.pack (.zero .positive)) = 0.0 := by
    decide +kernel
  rw [toFloat, Float.ofScientific]
  split_ifs with hshort
  · exact (hpowers ⟨e.natAbs, Nat.lt_succ_of_le hshort.2⟩).1
  · exact (hpowers ⟨e.natAbs, Nat.lt_succ_of_le hshort.2⟩).2
  · exact hlong
  · exact hlong

/-- A decimal that is read as a positive float is positive itself. -/
lemma coefficient_pos {d : Decimal} (h : IsPositive d.toFloat.toModel.unpack = true) :
    0 < d.coefficient := by
  by_contra hzero
  obtain ⟨c, e⟩ := d
  obtain rfl : c = 0 := Nat.eq_zero_of_not_pos hzero
  rw [toFloat_zero] at h
  exact absurd h (by decide +kernel)

/-! ### The exact decimal of a float -/

lemma value_toDecimal (b : Binary) : b.toDecimal.value = b.mantissa * 2 ^ b.exponent := by
  rw [Binary.toDecimal]
  split_ifs with hnonneg
  · rw [value]
    simp only [Nat.cast_mul, zpow_zero, mul_one, Nat.pow_eq, Nat.cast_pow, Nat.cast_ofNat]
    rw [← zpow_natCast, Int.toNat_of_nonneg hnonneg]
  · obtain ⟨n, hn⟩ : ∃ n : ℕ, b.exponent = -n := ⟨(-b.exponent).toNat, by omega⟩
    rw [value]
    simp only [hn, neg_neg, Int.toNat_natCast, Nat.cast_mul, Nat.pow_eq, Nat.cast_pow,
      Nat.cast_ofNat, zpow_neg, zpow_natCast]
    rw [show (10 : ℚ) = 5 * 2 by norm_num, mul_pow]
    field_simp

lemma pack_unpack (x : Float) : Float.ofModel (Float.Model.pack x.toModel.unpack) = x := by
  obtain ⟨⟨bits, hvalid⟩⟩ := x
  have hbits := UnpackedFloat.pack_unpack_of_valid hvalid
  congr 1
  simp only [Float.Model.pack, Float.Model.unpack, hbits]

/-- The exact decimal of a positive float is read as that float. -/
lemma toFloat_toDecimal {x : Float} (hx : IsPositive x.toModel.unpack = true) :
    (Binary.ofFloat x).toDecimal.toFloat = x := by
  obtain ⟨m, e, hm, hunpack⟩ := exists_of_isPositive hx
  obtain ⟨hbinary, hcanonical, _⟩ := of_unpack_eq_finite hunpack
  have hvalue : (Binary.ofFloat x).toDecimal.value = m * 2 ^ e := by
    rw [value_toDecimal, hbinary]
  have hpos : 0 < (Binary.ofFloat x).toDecimal.coefficient := by
    rw [hbinary, Binary.toDecimal]
    split_ifs <;> exact Nat.mul_pos hm (Nat.pow_pos (by decide))
  rw [toFloat_eq hpos, hvalue, float, nearest_of_canonical hcanonical, ← hunpack, pack_unpack]

/-- The decimal that is written for a positive float is read as that float. -/
theorem toFloat_shortest_eq (tie : Tie) {x : Float} (hx : IsPositive x.toModel.unpack = true) :
    (shortest tie x).toFloat = x := by
  rcases toFloat_shortest tie x with h | h
  · exact h
  · rw [h]
    exact toFloat_toDecimal hx

end Decimal

end Groupwise
