import Mathlib

/-!
# Rounding to floats

The unpacked float next to a positive rational number is given in one formula, `Rounded.nearest`:
the number in units of its last place, rounded to the even one of two equally near integers. What
floats do is compared with it: shifting a mantissa to the right keeps track of the exact number
(`Rounded.Represents`), so rounding a mantissa with what is known of the rest, and with it products
and quotients, all give the nearest float.
-/

namespace Groupwise.Rounded

open Float.Model
open Float.Model.UnpackedFloat

/-! ### The nearest float -/

/-- The exponent of the last place of floats near `q`. -/
def lastPlace (q : ℚ) : ℤ := max (Int.log 2 q - 52) (-1074)

/-- The nearest natural number, the even one of two equally near ones. -/
def toEven (x : ℚ) : ℕ :=
  if x - ⌊x⌋₊ < 1 / 2 then ⌊x⌋₊
  else if x - ⌊x⌋₊ = 1 / 2 then ⌊x⌋₊ + ⌊x⌋₊ % 2
  else ⌊x⌋₊ + 1

/-- The positive float of `n` units of the given place; `2 ^ 53` of them are carried to the next
place. -/
def ofUnits (n : ℕ) (e : ℤ) : UnpackedFloat :=
  if h : n = 0 then .zero .positive
  else if n < 2 ^ 53 then .finite .positive n e (Nat.pos_of_ne_zero h)
  else .finite .positive (2 ^ 52) (e + 1) (by decide)

/-- The float nearest to a positive number, with exponents of any size. -/
def nearest (q : ℚ) : UnpackedFloat := ofUnits (toEven (q / 2 ^ lastPlace q)) (lastPlace q)

lemma two_zpow_pos (e : ℤ) : (0 : ℚ) < 2 ^ e := zpow_pos (by norm_num) e

lemma mul_zpow_pos {m : ℕ} (hm : 0 < m) (e : ℤ) : (0 : ℚ) < m * 2 ^ e :=
  mul_pos (by exact_mod_cast hm) (two_zpow_pos e)

lemma toEven_natCast (n : ℕ) : toEven n = n := by
  rw [toEven, Nat.floor_natCast, sub_self, if_pos (by norm_num)]

lemma toEven_le {x : ℚ} (hx : 0 ≤ x) {n : ℕ} (hn : x < n) : toEven x ≤ n := by
  have hfloor : ⌊x⌋₊ < n := (Nat.floor_lt hx).2 hn
  rw [toEven]
  split_ifs <;> omega

lemma toEven_eq_zero {x : ℚ} (hx : x < 1 / 2) : toEven x = 0 := by
  have hfloor : ⌊x⌋₊ = 0 := Nat.floor_eq_zero.2 (by linarith)
  rw [toEven, hfloor, Nat.cast_zero, sub_zero, if_pos hx]

lemma le_lastPlace (q : ℚ) : -1074 ≤ lastPlace q := le_max_right _ _

lemma log_le_lastPlace (q : ℚ) : Int.log 2 q ≤ lastPlace q + 52 := by
  have := le_max_left (Int.log 2 q - 52) (-1074)
  rw [lastPlace]
  omega

lemma div_lastPlace_lt {q : ℚ} : q / 2 ^ lastPlace q < (2 ^ 53 : ℕ) := by
  rw [div_lt_iff₀ (two_zpow_pos _)]
  calc q < 2 ^ (Int.log 2 q + 1) := Int.lt_zpow_succ_log_self (by decide) q
    _ ≤ 2 ^ (53 + lastPlace q) :=
      zpow_le_zpow_right₀ (by norm_num) (by have := log_le_lastPlace q; omega)
    _ = (2 ^ 53 : ℕ) * 2 ^ lastPlace q := by
      rw [zpow_add₀ (by norm_num)]
      norm_num

lemma le_lastPlace_of_le {q : ℚ} (hq : 0 < q) {k : ℤ} (h : 2 ^ (k + 52) ≤ q) :
    k ≤ lastPlace q := by
  have hlog : k + 52 ≤ Int.log 2 q :=
    (Int.zpow_le_iff_le_log (by decide) hq).1 (by exact_mod_cast h)
  have := log_le_lastPlace q
  omega

/-! ### What mantissas stand for -/

/-- The mantissa and its two extra bits stand for the number `x`. -/
def Represents (m : ExtendedMantissa) (x : ℚ) : Prop :=
  match m.roundBit, m.stickyBit with
  | false, false => x = m.mantissa
  | false, true => (m.mantissa : ℚ) < x ∧ x < m.mantissa + 1 / 2
  | true, false => x = m.mantissa + 1 / 2
  | true, true => (m.mantissa : ℚ) + 1 / 2 < x ∧ x < m.mantissa + 1

namespace Represents

variable {m : ExtendedMantissa} {x : ℚ}

lemma exact (n : ℕ) : Represents (.ofMantissaAndAccuracy n .exact) n := rfl

lemma mantissa_le (h : Represents m x) : (m.mantissa : ℚ) ≤ x ∧ x < m.mantissa + 1 := by
  obtain ⟨n, r, s⟩ := m
  cases r <;> cases s <;> simp only [Represents] at h ⊢ <;> constructor <;> linarith

lemma floor (h : Represents m x) : ⌊x⌋₊ = m.mantissa := by
  obtain ⟨hle, hlt⟩ := h.mantissa_le
  have hx : 0 ≤ x := le_trans (Nat.cast_nonneg _) hle
  exact (Nat.floor_eq_iff hx).2 ⟨hle, hlt⟩

lemma roundedMantissa (h : Represents m x) : m.roundedMantissa = toEven x := by
  rw [toEven, h.floor]
  obtain ⟨n, r, s⟩ := m
  cases r <;> cases s <;> simp only [Represents] at h
  · rw [if_pos (by rw [h]; norm_num)]
    rfl
  · rw [if_pos (by linarith [h.2])]
    rfl
  · rw [if_neg (by rw [h]; norm_num), if_pos (by rw [h]; ring)]
    rfl
  · rw [if_neg (by linarith [h.1]), if_neg (by intro heq; linarith [h.1])]
    rfl

lemma shiftRightOne (h : Represents m x) : Represents m.shiftRightOne (x / 2) := by
  obtain ⟨n, r, s⟩ := m
  have hcast : (n : ℚ) = 2 * (n / 2 : ℕ) + (n % 2 : ℕ) := by
    exact_mod_cast (Nat.div_add_mod n 2).symm
  rcases Nat.mod_two_eq_zero_or_one n with hn | hn
  · have hround : (n % 2 != 0) = false := by rw [hn]; rfl
    rw [hn, Nat.cast_zero, add_zero] at hcast
    cases r <;> cases s <;> simp only [Represents] at h <;>
      simp only [Represents, ExtendedMantissa.shiftRightOne, hround, Bool.or_false, Bool.or_true]
    · linarith
    · constructor <;> linarith
    · constructor <;> linarith
    · constructor <;> linarith
  · have hround : (n % 2 != 0) = true := by rw [hn]; rfl
    rw [hn, Nat.cast_one] at hcast
    cases r <;> cases s <;> simp only [Represents] at h <;>
      simp only [Represents, ExtendedMantissa.shiftRightOne, hround, Bool.or_false, Bool.or_true]
    · linarith
    · constructor <;> linarith
    · constructor <;> linarith
    · constructor <;> linarith

lemma shiftRight (h : Represents m x) (k : ℕ) : Represents (m >>> k) (x / 2 ^ k) := by
  show Represents (Nat.repeat ExtendedMantissa.shiftRightOne k m) _
  induction k with
  | zero =>
    rw [pow_zero, div_one]
    exact h
  | succ k ih =>
    rw [Nat.repeat, pow_succ, ← div_div]
    exact ih.shiftRightOne

end Represents

/-! ### Rounding a mantissa -/

lemma log_eq {q : ℚ} (hq : 0 < q) {k : ℤ} (hle : 2 ^ k ≤ q) (hlt : q < 2 ^ (k + 1)) :
    Int.log 2 q = k := by
  have hk : k ≤ Int.log 2 q := (Int.zpow_le_iff_le_log (by decide) hq).1 (by exact_mod_cast hle)
  have hk' : Int.log 2 q < k + 1 :=
    (Int.lt_zpow_iff_log_lt (by decide) hq).1 (by exact_mod_cast hlt)
  omega

lemma zpow_log2_le {m : ℕ} (hm : 0 < m) (e : ℤ) : (2 : ℚ) ^ (m.log2 + e : ℤ) ≤ m * 2 ^ e := by
  rw [zpow_add₀ (by norm_num), zpow_natCast]
  gcongr
  exact_mod_cast Nat.log2_self_le hm.ne'

lemma lt_zpow_log2 (m : ℕ) (e : ℤ) : (m : ℚ) * 2 ^ e < 2 ^ (m.log2 + 1 + e : ℤ) := by
  rw [zpow_add₀ (by norm_num)]
  gcongr
  exact_mod_cast Nat.lt_log2_self (n := m)

lemma targetExponent_eq (e : ℤ) : Format.binary64.targetExponent e = max (e - 53) (-1074) := rfl

/-- A mantissa in units that are small enough shows where the last place is. -/
lemma targetExponent_of_floor {q : ℚ} (hq : 0 < q) {m : ℕ} {e : ℤ} (hm : ⌊q / 2 ^ e⌋₊ = m)
    (he : e ≤ lastPlace q) :
    Format.binary64.targetExponent (totalExponent m e) = lastPlace q := by
  have hpos := two_zpow_pos e
  obtain ⟨hle, hlt⟩ := (Nat.floor_eq_iff (div_pos hq hpos).le).1 hm
  rw [le_div_iff₀ hpos] at hle
  rw [div_lt_iff₀ hpos] at hlt
  rw [targetExponent_eq, totalExponent, lastPlace]
  rw [lastPlace] at he
  -- A number of less than one unit has the lowest last place there is.
  rcases Nat.eq_zero_or_pos m with rfl | hpos'
  · have hlog : Int.log 2 q < e := by
      refine (Int.lt_zpow_iff_log_lt (by decide) hq).1 ?_
      simpa using hlt
    rw [Nat.log2_zero]
    omega
  · have hlog : Int.log 2 q = m.log2 + e := by
      refine log_eq hq ((zpow_log2_le hpos' e).trans hle) (hlt.trans_le ?_)
      calc (m + 1 : ℚ) * 2 ^ e ≤ (2 ^ (m.log2 + 1) : ℕ) * 2 ^ e := by
            gcongr
            exact_mod_cast Nat.lt_log2_self (n := m)
        _ = 2 ^ ((m.log2 : ℤ) + e + 1) := by
            rw [add_right_comm, zpow_add₀ (by norm_num), Nat.cast_pow]
            norm_cast
    rw [hlog]
    omega

/-- Units of the last place need no further shift, unless all `2 ^ 53` of them are carried. -/
lemma shift_ofUnits {n : ℕ} {e : ℤ} (hn : n ≤ 2 ^ 53) (he : -1074 ≤ e) :
    (let (m, k) := shiftToTargetExponent .binary64 n e .exact
      if h : m.mantissa = 0 then UnpackedFloat.zero .positive
      else .finite .positive m.mantissa k (Nat.pos_of_ne_zero h)) = ofUnits n e := by
  rcases hn.lt_or_eq with hlt | rfl
  · have hlog : n.log2 ≤ 52 := by
      rcases Nat.eq_zero_or_pos n with rfl | hpos
      · simp
      · exact Nat.lt_succ_iff.1 ((Nat.log2_lt hpos.ne').2 hlt)
    have hshift : (Format.binary64.targetExponent (totalExponent n e) - e).toNat = 0 := by
      rw [targetExponent_eq, totalExponent]
      omega
    simp only [shiftToTargetExponent, shiftToExponent, hshift]
    show (if h : n = 0 then UnpackedFloat.zero .positive else .finite .positive n (e + 0) _) = _
    simp only [add_zero, ofUnits, hlt, ↓reduceIte]
  · have hshift : (Format.binary64.targetExponent (totalExponent (2 ^ 53) e) - e).toNat = 1 := by
      rw [targetExponent_eq, totalExponent, Nat.log2_two_pow]
      omega
    simp only [shiftToTargetExponent, shiftToExponent, hshift]
    rfl

/-- What is known of a number beyond its mantissa is enough to round it. -/
lemma roundWithAccuracy_eq {q : ℚ} (hq : 0 < q) {m : ℕ} {e : ℤ} {a : Accuracy}
    (h : Represents (.ofMantissaAndAccuracy m a) (q / 2 ^ e)) (he : e ≤ lastPlace q) :
    roundWithAccuracy .binary64 .positive m e a = nearest q := by
  have hmantissa : (ExtendedMantissa.ofMantissaAndAccuracy m a).mantissa = m := by
    rcases a with _ | (_ | _ | _) <;> rfl
  have htarget := targetExponent_of_floor hq (hmantissa ▸ h.floor) he
  have hexponent : e + ((lastPlace q - e).toNat : ℤ) = lastPlace q := by omega
  have hnumber : q / 2 ^ e / 2 ^ (lastPlace q - e).toNat = q / 2 ^ lastPlace q := by
    rw [div_div, ← zpow_natCast, ← zpow_add₀ (by norm_num), hexponent]
  have hrounded := (h.shiftRight (lastPlace q - e).toNat).roundedMantissa
  rw [hnumber] at hrounded
  have hunits : toEven (q / 2 ^ lastPlace q) ≤ 2 ^ 53 :=
    toEven_le (div_pos hq (two_zpow_pos _)).le div_lastPlace_lt
  have hfirst : shiftToTargetExponent .binary64 m e a =
      (ExtendedMantissa.ofMantissaAndAccuracy m a >>> (lastPlace q - e).toNat, lastPlace q) := by
    simp only [shiftToTargetExponent, htarget, shiftToExponent, hexponent]
  -- The first shift goes to the last place, where the mantissa is rounded; the second one carries.
  rw [nearest, ← shift_ofUnits hunits (le_lastPlace q), roundWithAccuracy, hfirst]
  dsimp only
  rw [hrounded]

/-! ### Exact values -/

/-- The mantissa and the exponent are those of a float. -/
structure Canonical (m : ℕ) (e : ℤ) : Prop where
  pos : 0 < m
  lt : m < 2 ^ 53
  le : -1074 ≤ e
  normal : 2 ^ 52 ≤ m ∨ e = -1074

lemma lastPlace_of_canonical {m : ℕ} {e : ℤ} (h : Canonical m e) :
    lastPlace (m * 2 ^ e) = e := by
  have hpos : (0 : ℚ) < m * 2 ^ e := mul_zpow_pos h.pos e
  have hlt : Int.log 2 ((m : ℚ) * 2 ^ e) < 53 + e := by
    refine (Int.lt_zpow_iff_log_lt (by decide) hpos).1 ?_
    rw [Nat.cast_ofNat, zpow_add₀ (by norm_num)]
    gcongr
    exact_mod_cast h.lt
  rw [lastPlace]
  rcases h.normal with hm | rfl
  · have hle : 52 + e ≤ Int.log 2 ((m : ℚ) * 2 ^ e) := by
      refine (Int.zpow_le_iff_le_log (by decide) hpos).1 ?_
      rw [Nat.cast_ofNat, zpow_add₀ (by norm_num)]
      gcongr
      exact_mod_cast hm
    have := h.le
    omega
  · omega

/-- A number that is the value of a float is rounded to that float. -/
lemma nearest_of_canonical {m : ℕ} {e : ℤ} (h : Canonical m e) :
    nearest (m * 2 ^ e) = .finite .positive m e h.pos := by
  have hunits : (m : ℚ) * 2 ^ e / 2 ^ e = m := mul_div_cancel_right₀ _ (two_zpow_pos e).ne'
  simp only [nearest, lastPlace_of_canonical h, hunits, toEven_natCast, ofUnits, h.pos.ne', h.lt,
    ↓reduceDIte, ↓reduceIte]

/-- Every natural number below `2 ^ 53` is the value of a float. -/
lemma exists_canonical {n : ℕ} (hpos : 0 < n) (hlt : n < 2 ^ 53) :
    ∃ m e, Canonical m e ∧ 2 ^ 52 ≤ m ∧ e ≤ 0 ∧ (n : ℚ) = m * 2 ^ e := by
  have hlog : n.log2 ≤ 52 := Nat.lt_succ_iff.1 ((Nat.log2_lt hpos.ne').2 hlt)
  have hle : 2 ^ n.log2 ≤ n := Nat.log2_self_le hpos.ne'
  have hlt' : n < 2 ^ (n.log2 + 1) := Nat.lt_log2_self
  have hnormal : 2 ^ 52 ≤ n * 2 ^ (52 - n.log2) := by
    calc 2 ^ 52 = 2 ^ n.log2 * 2 ^ (52 - n.log2) := by rw [← pow_add]; congr 1; omega
      _ ≤ n * 2 ^ (52 - n.log2) := Nat.mul_le_mul_right _ hle
  have hbound : n * 2 ^ (52 - n.log2) < 2 ^ 53 := by
    calc n * 2 ^ (52 - n.log2) < 2 ^ (n.log2 + 1) * 2 ^ (52 - n.log2) :=
          Nat.mul_lt_mul_of_pos_right hlt' (by positivity)
      _ = 2 ^ 53 := by rw [← pow_add]; congr 1; omega
  refine ⟨n * 2 ^ (52 - n.log2), -(52 - n.log2 : ℕ),
    ⟨by positivity, hbound, by omega, .inl hnormal⟩, hnormal, by omega, ?_⟩
  rw [zpow_neg, zpow_natCast]
  push_cast
  field_simp

/-! ### Products and quotients -/

lemma mul_eq {m₁ m₂ : ℕ} {e₁ e₂ : ℤ} {h₁ : 0 < m₁} {h₂ : 0 < m₂}
    (h : e₁ + e₂ ≤ lastPlace (m₁ * 2 ^ e₁ * (m₂ * 2 ^ e₂))) :
    mul .binary64 (.finite .positive m₁ e₁ h₁) (.finite .positive m₂ e₂ h₂) =
      nearest (m₁ * 2 ^ e₁ * (m₂ * 2 ^ e₂)) := by
  have hpos₁ : (0 : ℚ) < m₁ * 2 ^ e₁ := mul_zpow_pos h₁ e₁
  have hpos₂ : (0 : ℚ) < m₂ * 2 ^ e₂ := mul_zpow_pos h₂ e₂
  refine roundWithAccuracy_eq (mul_pos hpos₁ hpos₂) ?_ h
  have hvalue : (m₁ : ℚ) * 2 ^ e₁ * (m₂ * 2 ^ e₂) / 2 ^ (e₁ + e₂) = (m₁ * m₂ : ℕ) := by
    rw [zpow_add₀ (by norm_num)]
    have := (two_zpow_pos e₁).ne'
    have := (two_zpow_pos e₂).ne'
    push_cast
    field_simp
  rw [hvalue]
  exact .exact _

/-- A quotient and the comparison of its remainder with half the divisor. -/
lemma represents_quotient (m : ℕ) {n : ℕ} (hn : 0 < n) :
    Represents (.ofMantissaAndAccuracy (m / n) (accuracyOfFraction (m % n) n)) (m / n : ℚ) := by
  have hpos : (0 : ℚ) < n := by exact_mod_cast hn
  have hsplit : (m : ℚ) / n = (m / n : ℕ) + ((m % n : ℕ) : ℚ) / n := by
    rw [eq_comm, ← mul_left_inj' hpos.ne', add_mul, div_mul_cancel₀ _ hpos.ne',
      div_mul_cancel₀ _ hpos.ne']
    exact_mod_cast Nat.div_add_mod' m n
  have hlt : ((m % n : ℕ) : ℚ) / n < 1 := by
    rw [div_lt_one hpos]
    exact_mod_cast Nat.mod_lt m hn
  rw [hsplit, accuracyOfFraction]
  split_ifs with hzero
  · rw [hzero, Nat.cast_zero, zero_div, add_zero]
    exact .exact _
  · have hrest : 0 < ((m % n : ℕ) : ℚ) / n :=
      div_pos (by exact_mod_cast Nat.pos_of_ne_zero hzero) hpos
    cases hcompare : compare (2 * (m % n)) n with
    | lt =>
      have hhalf : ((m % n : ℕ) : ℚ) / n < 1 / 2 := by
        rw [div_lt_div_iff₀ hpos (by norm_num)]
        exact_mod_cast (by have := compare_lt_iff_lt.1 hcompare; omega : m % n * 2 < 1 * n)
      simp only [Represents, ExtendedMantissa.ofMantissaAndAccuracy]
      constructor <;> linarith
    | eq =>
      have hhalf : ((m % n : ℕ) : ℚ) / n = 1 / 2 := by
        rw [div_eq_div_iff hpos.ne' (by norm_num)]
        exact_mod_cast (by have := compare_eq_iff_eq.1 hcompare; omega : m % n * 2 = 1 * n)
      simp only [Represents, ExtendedMantissa.ofMantissaAndAccuracy, hhalf]
    | gt =>
      have hhalf : 1 / 2 < ((m % n : ℕ) : ℚ) / n := by
        rw [div_lt_div_iff₀ (by norm_num) hpos]
        exact_mod_cast (by have := compare_gt_iff_gt.1 hcompare; omega : 1 * n < m % n * 2)
      simp only [Represents, ExtendedMantissa.ofMantissaAndAccuracy]
      constructor <;> linarith

/-- The total exponents show the last place of a quotient from below. -/
lemma targetExponent_le_lastPlace {m₁ m₂ : ℕ} (e₁ e₂ : ℤ) (h₁ : 0 < m₁) (h₂ : 0 < m₂) :
    Format.binary64.targetExponent (totalExponent m₁ e₁ - totalExponent m₂ e₂) ≤
      lastPlace (m₁ * 2 ^ e₁ / (m₂ * 2 ^ e₂)) := by
  have hpos₁ : (0 : ℚ) < m₁ * 2 ^ e₁ := mul_zpow_pos h₁ e₁
  have hpos₂ : (0 : ℚ) < m₂ * 2 ^ e₂ := mul_zpow_pos h₂ e₂
  have hlog : totalExponent m₁ e₁ - totalExponent m₂ e₂ - 1 ≤
      Int.log 2 ((m₁ : ℚ) * 2 ^ e₁ / (m₂ * 2 ^ e₂)) := by
    refine (Int.zpow_le_iff_le_log (by decide) (div_pos hpos₁ hpos₂)).1 ?_
    rw [le_div_iff₀ hpos₂]
    calc ((2 : ℕ) : ℚ) ^ (totalExponent m₁ e₁ - totalExponent m₂ e₂ - 1) * (m₂ * 2 ^ e₂)
        ≤ 2 ^ (totalExponent m₁ e₁ - totalExponent m₂ e₂ - 1) * 2 ^ (m₂.log2 + 1 + e₂ : ℤ) := by
          rw [Nat.cast_ofNat]
          gcongr
          exact (lt_zpow_log2 m₂ e₂).le
      _ = 2 ^ (m₁.log2 + e₁ : ℤ) := by
          rw [← zpow_add₀ (by norm_num), totalExponent, totalExponent]
          congr 1
          ring
      _ ≤ m₁ * 2 ^ e₁ := zpow_log2_le h₁ e₁
  rw [targetExponent_eq, lastPlace]
  omega

lemma div_eq {m₁ m₂ : ℕ} {e₁ e₂ : ℤ} (h₁ : 0 < m₁) (h₂ : 0 < m₂) :
    UnpackedFloat.div .binary64 (.finite .positive m₁ e₁ h₁) (.finite .positive m₂ e₂ h₂) =
      nearest (m₁ * 2 ^ e₁ / (m₂ * 2 ^ e₂)) := by
  have hpos₁ : (0 : ℚ) < m₁ * 2 ^ e₁ := mul_zpow_pos h₁ e₁
  have hpos₂ : (0 : ℚ) < m₂ * 2 ^ e₂ := mul_zpow_pos h₂ e₂
  have hplace := targetExponent_le_lastPlace e₁ e₂ h₁ h₂
  generalize htarget : Format.binary64.targetExponent (totalExponent m₁ e₁ - totalExponent m₂ e₂) =
    t at hplace
  have hshift : ((e₁ - e₂ - min (e₁ - e₂) t).toNat : ℤ) + min (e₁ - e₂) t = e₁ - e₂ := by omega
  have hvalue : (m₁ : ℚ) * 2 ^ e₁ / (m₂ * 2 ^ e₂) / 2 ^ min (e₁ - e₂) t =
      (m₁ <<< (e₁ - e₂ - min (e₁ - e₂) t).toNat : ℕ) / m₂ := by
    rw [Nat.shiftLeft_eq, Nat.cast_mul, Nat.cast_pow, Nat.cast_ofNat, ← zpow_natCast,
      eq_sub_of_add_eq hshift, zpow_sub₀ (by norm_num), zpow_sub₀ (by norm_num)]
    field_simp
  have hrepresents := represents_quotient (m₁ <<< (e₁ - e₂ - min (e₁ - e₂) t).toNat) h₂
  rw [← hvalue] at hrepresents
  have hround := roundWithAccuracy_eq (div_pos hpos₁ hpos₂) hrepresents
    ((min_le_right _ _).trans hplace)
  rw [← htarget] at hround
  exact hround

end Groupwise.Rounded
