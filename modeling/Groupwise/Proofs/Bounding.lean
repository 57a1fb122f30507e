import Groupwise.Proofs.Decimals
import Groupwise.Proofs.FloatOrder
import Mathlib

/-!
# Rounding keeps bounds

A number between two floats is rounded to a float between them (`Rounded.exists_hasValue_float`),
and sums, differences and products of positive floats are rounded exact ones. So bounds of a
computation with floats can be found by exact arithmetic.
-/

namespace Groupwise.Rounded

open Float.Model
open Float.Model.UnpackedFloat

variable {p q r : ℚ} {m n : ℕ} {e k : ℤ}

/-! ### Places -/

lemma lastPlace_mono (hp : 0 < p) (h : p ≤ q) : lastPlace p ≤ lastPlace q := by
  have hlog : Int.log 2 p ≤ Int.log 2 q := Int.log_mono_right hp h
  rw [lastPlace, lastPlace]
  omega

/-- A place above the lowest one is that of a number with a leading bit. -/
lemma leadingBit_le (hq : 0 < q) (h : lastPlace q ≠ -1074) :
    (2 ^ 52 : ℕ) ≤ q / 2 ^ lastPlace q := by
  have hplace : lastPlace q + 52 ≤ Int.log 2 q := by
    rw [lastPlace] at h ⊢
    omega
  rw [le_div_iff₀ (two_zpow_pos _)]
  calc ((2 ^ 52 : ℕ) : ℚ) * 2 ^ lastPlace q = 2 ^ (lastPlace q + 52) := by
        rw [zpow_add₀ (by norm_num), mul_comm]
        norm_num
    _ ≤ 2 ^ Int.log 2 q := zpow_le_zpow_right₀ (by norm_num) hplace
    _ ≤ q := Int.zpow_log_le_self (by decide) hq

/-! ### Whole units -/

lemma toEven_le_of_le {x : ℚ} (hx : 0 ≤ x) (h : x ≤ n) : toEven x ≤ n := by
  rcases h.lt_or_eq with h | rfl
  · exact toEven_le hx h
  · exact (toEven_natCast n).le

lemma le_toEven {x : ℚ} (h : (n : ℚ) ≤ x) : n ≤ toEven x := by
  have hfloor : n ≤ ⌊x⌋₊ := Nat.le_floor h
  rw [toEven]
  split_ifs <;> omega

/-- The value of the float next to a number. -/
def rounded (q : ℚ) : ℚ := toEven (q / 2 ^ lastPlace q) * 2 ^ lastPlace q

lemma rounded_le (h : Canonical m e) (hq : 0 < q) (hle : q ≤ m * 2 ^ e) :
    rounded q ≤ m * 2 ^ e := by
  have hplace : lastPlace q ≤ e := lastPlace_of_canonical h ▸ lastPlace_mono hq hle
  have hunits : (m * 2 ^ (e - lastPlace q).toNat : ℕ) * (2 : ℚ) ^ lastPlace q = m * 2 ^ e := by
    rw [Nat.cast_mul, mul_assoc, Nat.cast_pow, Nat.cast_ofNat, ← zpow_natCast,
      ← zpow_add₀ (by norm_num), Int.toNat_of_nonneg (by omega), sub_add_cancel]
  rw [rounded, ← hunits]
  gcongr
  refine toEven_le_of_le (div_pos hq (two_zpow_pos _)).le ?_
  rwa [div_le_iff₀ (two_zpow_pos _), hunits]

lemma le_rounded (h : Canonical m e) (hle : m * 2 ^ e ≤ q) : m * 2 ^ e ≤ rounded q := by
  have hpos : (0 : ℚ) < m * 2 ^ e := mul_zpow_pos h.pos e
  have hq : 0 < q := hpos.trans_le hle
  have hplace : e ≤ lastPlace q := lastPlace_of_canonical h ▸ lastPlace_mono hpos hle
  rw [rounded]
  rcases hplace.lt_or_eq with hlt | heq
  · -- In a higher place there are so many units that they exceed all mantissas of a lower one.
    have hleading := le_toEven (leadingBit_le hq (by have := h.le; omega))
    calc (m : ℚ) * 2 ^ e ≤ (2 ^ 53 : ℕ) * 2 ^ e := by
          gcongr
          exact_mod_cast h.lt.le
      _ = (2 ^ 52 : ℕ) * 2 ^ (e + 1) := by
          rw [zpow_add₀ (by norm_num)]
          norm_num
          ring
      _ ≤ toEven (q / 2 ^ lastPlace q) * 2 ^ lastPlace q := by
          gcongr
          · norm_num
          · omega
  · rw [← heq]
    gcongr
    refine le_toEven ?_
    rwa [le_div_iff₀ (two_zpow_pos _)]

/-! ### Values of floats -/

/-- The float is the positive number `q`. -/
def HasValue (x : Float) (q : ℚ) : Prop :=
  ∃ m e hm, x.toModel.unpack = .finite .positive m e hm ∧ (m : ℚ) * 2 ^ e = q

/-- The number is the value of a float. -/
def Representable (q : ℚ) : Prop := ∃ x, HasValue x q

lemma HasValue.pos {x : Float} (h : HasValue x q) : 0 < q := by
  obtain ⟨m, e, hm, -, rfl⟩ := h
  exact mul_zpow_pos hm e

lemma exists_ofUnits (hpos : 0 < n) (hle : n ≤ 2 ^ 53) (he : -1074 ≤ e)
    (hnormal : 2 ^ 52 ≤ n ∨ e = -1074) :
    ∃ m k, ∃ h : Canonical m k, ofUnits n e = .finite .positive m k h.pos ∧
      (m : ℚ) * 2 ^ k = n * 2 ^ e := by
  rcases hle.lt_or_eq with hlt | rfl
  · refine ⟨n, e, ⟨hpos, hlt, he, hnormal⟩, ?_, rfl⟩
    simp only [ofUnits, hpos.ne', hlt, ↓reduceDIte, ↓reduceIte]
  · refine ⟨2 ^ 52, e + 1, ⟨by decide, by decide, by omega, .inl le_rfl⟩, rfl, ?_⟩
    rw [zpow_add₀ (by norm_num)]
    norm_num
    ring

/-- A number between the values of two floats is rounded to a float between them. -/
theorem exists_hasValue_float (hp : Representable p) (hr : Representable r) (hpq : p ≤ q)
    (hqr : q ≤ r) : ∃ v, HasValue (float q) v ∧ p ≤ v ∧ v ≤ r := by
  obtain ⟨x, hx⟩ := hp
  obtain ⟨y, hy⟩ := hr
  have hppos := hx.pos
  have hq : 0 < q := hppos.trans_le hpq
  obtain ⟨m₁, e₁, hm₁, hunpack₁, rfl⟩ := hx
  obtain ⟨m₂, e₂, hm₂, hunpack₂, rfl⟩ := hy
  obtain ⟨-, hcanonical₁, -⟩ := of_unpack_eq_finite hunpack₁
  obtain ⟨-, hcanonical₂, hbound⟩ := of_unpack_eq_finite hunpack₂
  have hlow := le_rounded hcanonical₁ hpq
  have hhigh := rounded_le hcanonical₂ hq hqr
  refine ⟨rounded q, ?_, hlow, hhigh⟩
  have hunits : 0 < toEven (q / 2 ^ lastPlace q) := by
    refine Nat.pos_of_ne_zero fun hzero => ?_
    rw [rounded, hzero, Nat.cast_zero, zero_mul] at hlow
    exact absurd hlow (not_le.2 hppos)
  have hnormal : 2 ^ 52 ≤ toEven (q / 2 ^ lastPlace q) ∨ lastPlace q = -1074 := by
    by_cases hlowest : lastPlace q = -1074
    · exact .inr hlowest
    · exact .inl (le_toEven (leadingBit_le hq hlowest))
  obtain ⟨m, e, hcanonical, hnearest, hvalue⟩ := exists_ofUnits hunits
    (toEven_le (div_pos hq (two_zpow_pos _)).le div_lastPlace_lt) (le_lastPlace q) hnormal
  have he : e ≤ 971 := by
    have hplace := lastPlace_mono (mul_zpow_pos hcanonical.pos e) (hvalue.trans_le hhigh)
    rw [lastPlace_of_canonical hcanonical, lastPlace_of_canonical hcanonical₂] at hplace
    omega
  refine ⟨m, e, hcanonical.pos, ?_, hvalue⟩
  rw [float, nearest, hnearest]
  exact unpack_pack .positive hcanonical he

/-- A number that is the value of a float is rounded to it. -/
lemma HasValue.eq_float {x : Float} (h : HasValue x q) : x = float q := by
  obtain ⟨m, e, hm, hunpack, rfl⟩ := h
  obtain ⟨-, hcanonical, -⟩ := of_unpack_eq_finite hunpack
  rw [float, nearest_of_canonical hcanonical, ← hunpack, Decimal.pack_unpack]

lemma Canonical.hasValue (h : Canonical m e) (he : e ≤ 971) :
    HasValue (float (m * 2 ^ e)) (m * 2 ^ e) := by
  refine ⟨m, e, h.pos, ?_, rfl⟩
  rw [float, nearest_of_canonical h]
  exact unpack_pack .positive h he

instance (m : ℕ) (e : ℤ) : Decidable (Canonical m e) :=
  decidable_of_iff (0 < m ∧ m < 2 ^ 53 ∧ -1074 ≤ e ∧ (2 ^ 52 ≤ m ∨ e = -1074))
    ⟨fun ⟨hpos, hlt, hle, hnormal⟩ => ⟨hpos, hlt, hle, hnormal⟩,
      fun h => ⟨h.pos, h.lt, h.le, h.normal⟩⟩

lemma representable_of_canonical (h : Canonical m e) (he : e ≤ 971) (hq : (m : ℚ) * 2 ^ e = q) :
    Representable q :=
  ⟨_, hq ▸ h.hasValue he⟩

/-- A whole number that is written with one decimal place. -/
lemma hasValue_ofScientific (hpos : 0 < n) (hlt : n < 2 ^ 53) :
    HasValue (Float.ofScientific (n * 10) true 1) n := by
  have hvalue : (⟨n * 10, -1⟩ : Decimal).value = n := by
    rw [Decimal.value, Nat.cast_mul]
    norm_num
    ring
  have hfloat : Decimal.toFloat ⟨n * 10, -1⟩ = float n := by
    rw [Decimal.toFloat_eq (Nat.mul_pos hpos (by decide)), hvalue]
  obtain ⟨m, e, hm, hunpack, -, hn⟩ := exists_unpack_float hpos hlt
  rw [← hfloat] at hunpack
  exact ⟨m, e, hm, hunpack, hn⟩

lemma hasValue_one : HasValue 1.0 (1 : ℕ) :=
  hasValue_ofScientific (n := 1) (by decide) (by decide)

lemma hasValue_hundred : HasValue 100.0 (100 : ℕ) :=
  hasValue_ofScientific (n := 100) (by decide) (by decide)

/-! ### Order -/

variable {x y : Float}

lemma isNaN_of_hasValue (h : HasValue x q) : x.toModel.unpack.isNaN = false := by
  obtain ⟨m, e, hm, hunpack, -⟩ := h
  rw [hunpack]
  rfl

lemma rank_lt (hx : HasValue x p) (hy : HasValue y q) (h : p < q) :
    FloatOrder.rank x.toModel.unpack < FloatOrder.rank y.toModel.unpack := by
  obtain ⟨m, e, hm, hunpack, rfl⟩ := hx
  obtain ⟨n, k, hn, hunpack', rfl⟩ := hy
  have hplace := lastPlace_mono (mul_zpow_pos hm e) h.le
  rw [lastPlace_of_canonical (of_unpack_eq_finite hunpack).2.1,
    lastPlace_of_canonical (of_unpack_eq_finite hunpack').2.1] at hplace
  rw [hunpack, hunpack']
  rcases hplace.lt_or_eq with hlt | rfl
  · simp [FloatOrder.rank, Prod.Lex.toLex_lt_toLex, hlt]
  · have hmn : m < n := by exact_mod_cast lt_of_mul_lt_mul_right h (two_zpow_pos e).le
    simp [FloatOrder.rank, Prod.Lex.toLex_lt_toLex, hmn]

/-- Positive floats are ordered as their values are. -/
lemma HasValue.lt (hx : HasValue x p) (hy : HasValue y q) (h : p < q) : x < y := by
  have hlt : Number.lt x y = true := by
    rw [FloatOrder.float_lt, FloatOrder.lt_iff_rank (isNaN_of_hasValue hx) (isNaN_of_hasValue hy)]
    exact rank_lt hx hy h
  exact of_decide_eq_true hlt

lemma HasValue.le (hx : HasValue x p) (hy : HasValue y q) (h : p ≤ q) : x ≤ y := by
  have hle : Number.le x y = true := by
    rw [FloatOrder.float_le, FloatOrder.le_iff_rank]
    refine ⟨isNaN_of_hasValue hx, isNaN_of_hasValue hy, ?_⟩
    rcases h.lt_or_eq with hlt | rfl
    · exact (rank_lt hx hy hlt).le
    · rw [hx.eq_float, hy.eq_float]
  exact of_decide_eq_true hle

/-- What is between two positive floats is a positive float. -/
lemma exists_hasValue_of_between {z : Float} (hx : HasValue x p) (hz : HasValue z r) (hxy : x ≤ y)
    (hyz : y < z) : ∃ q, HasValue y q := by
  obtain ⟨-, hnumber, hle⟩ := (FloatOrder.le_iff_rank _ _).1
    ((FloatOrder.float_le x y).symm.trans (decide_eq_true hxy))
  have hlt := (FloatOrder.lt_iff_rank hnumber (isNaN_of_hasValue hz)).1
    ((FloatOrder.float_lt y z).symm.trans (decide_eq_true hyz))
  obtain ⟨m, e, hm, hunpack, -⟩ := hx
  obtain ⟨n, k, hn, hunpack', -⟩ := hz
  rw [hunpack] at hle
  rw [hunpack'] at hlt
  have hfinite : ∃ m e hm, y.toModel.unpack = .finite .positive m e hm := by
    generalize y.toModel.unpack = u at hle hlt
    rcases u with (_ | _) | _ | (_ | _) | ⟨_ | _, m, e, hm⟩
    case finite.positive => exact ⟨m, e, hm, rfl⟩
    all_goals
      simp [FloatOrder.rank, Prod.Lex.toLex_le_toLex, Prod.Lex.toLex_lt_toLex] at hle hlt
  obtain ⟨m, e, hm, hy⟩ := hfinite
  exact ⟨m * 2 ^ e, m, e, hm, hy, rfl⟩

/-- Positive floats are finite and not less than zero. -/
lemma HasValue.finite (h : HasValue x q) : x.isFinite = true ∧ ¬ x < 0.0 := by
  obtain ⟨m, e, hm, hunpack, -⟩ := h
  constructor
  · show x.toModel.unpack.isFinite = true
    rw [hunpack]
    rfl
  · intro hneg
    have hzero : (0.0 : Float).toModel.unpack = .zero .positive := by rfl
    have hlt := (FloatOrder.float_lt x 0.0).symm.trans (decide_eq_true hneg)
    rw [hunpack, hzero] at hlt
    cases hlt

/-! ### Sums, differences and products -/

lemma normalize_eq {z : ℤ} (hz : 0 < z) (e : ℤ) (s : Sign) :
    UnpackedFloat.normalize .binary64 z e s = nearest (z * 2 ^ e) := by
  obtain ⟨n, rfl⟩ := Int.eq_ofNat_of_zero_le hz.le
  rw [UnpackedFloat.normalize, compare_gt_iff_gt.2 hz]
  exact round_eq (by omega) e

/-- The mantissas of two floats in the same place. -/
lemma decreaseExponent_value (m : ℕ) (h : k ≤ e) :
    ((decreaseExponent m e k).1 : ℚ) * 2 ^ k = m * 2 ^ e := by
  have hexponent : ((e - k).toNat : ℤ) + k = e := by omega
  rw [decreaseExponent, Nat.shiftLeft_eq, Nat.cast_mul, Nat.cast_pow, Nat.cast_ofNat, mul_assoc,
    ← zpow_natCast, ← zpow_add₀ (by norm_num), hexponent]

/-- Two positive floats have mantissas in the same place, and these are what is added or taken
off. -/
lemma HasValue.exists_place (hx : HasValue x p) (hy : HasValue y q) :
    ∃ (a b : ℕ) (k : ℤ), p = a * 2 ^ k ∧ q = b * 2 ^ k ∧ 0 < a ∧
      x + y = Float.ofModel (.pack (UnpackedFloat.normalize .binary64 (a + b) k .positive)) ∧
      x - y = Float.ofModel (.pack (UnpackedFloat.normalize .binary64 (a - b) k .positive)) := by
  obtain ⟨m, e, hm, hunpack, rfl⟩ := hx
  obtain ⟨n, k, hn, hunpack', rfl⟩ := hy
  have hm' := decreaseExponent_value m (min_le_left e k)
  have hpos := mul_zpow_pos hm e
  rw [← hm', mul_pos_iff_of_pos_right (two_zpow_pos _), Nat.cast_pos] at hpos
  refine ⟨_, _, min e k, hm'.symm, (decreaseExponent_value n (min_le_right e k)).symm, hpos, ?_, ?_⟩
  · show Float.ofModel (Float.Model.pack (UnpackedFloat.add .binary64 _ _)) = _
    rw [hunpack, hunpack']
    rfl
  · show Float.ofModel (Float.Model.pack (UnpackedFloat.sub .binary64 _ _)) = _
    rw [hunpack, hunpack']
    rfl

lemma HasValue.add_eq (hx : HasValue x p) (hy : HasValue y q) : x + y = float (p + q) := by
  obtain ⟨a, b, k, rfl, rfl, ha, hadd, -⟩ := hx.exists_place hy
  rw [hadd, normalize_eq (by omega), Int.cast_add, add_mul, Int.cast_natCast, Int.cast_natCast]
  rfl

lemma HasValue.sub_eq (hx : HasValue x p) (hy : HasValue y q) (h : q < p) :
    x - y = float (p - q) := by
  obtain ⟨a, b, k, rfl, rfl, -, -, hsub⟩ := hx.exists_place hy
  rw [mul_lt_mul_iff_left₀ (two_zpow_pos k), Nat.cast_lt] at h
  rw [hsub, normalize_eq (by omega), Int.cast_sub, sub_mul, Int.cast_natCast, Int.cast_natCast]
  rfl

lemma HasValue.mul_eq (hx : HasValue x p) (hy : HasValue y q) (h : 2 ^ (-1022 : ℤ) ≤ p) :
    x * y = float (p * q) := by
  obtain ⟨m, e, hm, hunpack, rfl⟩ := hx
  obtain ⟨n, k, hn, hunpack', rfl⟩ := hy
  refine float_mul hunpack hunpack' ?_
  rcases (of_unpack_eq_finite hunpack).2.1.normal with hnormal | rfl
  · exact hnormal
  · have hm' : ((2 ^ 52 : ℕ) : ℚ) * 2 ^ (-1074 : ℤ) ≤ m * 2 ^ (-1074 : ℤ) := by
      refine le_trans (le_of_eq ?_) h
      rw [Nat.cast_pow, Nat.cast_ofNat, ← zpow_natCast, ← zpow_add₀ (by norm_num)]
      norm_num
    exact_mod_cast le_of_mul_le_mul_right hm' (two_zpow_pos _)

end Groupwise.Rounded
