import Groupwise.Generator
import Groupwise.Proofs.Bounding
import Mathlib

/-!
# Random draws are in range

Random numbers stay below their bounds (`Random.below_lt`), and random prices stay between one and
a hundred although two of the three operations on the way to a price are rounded
(`Random.price_mem`). So whatever the state of the source is, a random draw is in range
(`Draw.inRange_random`).
-/

namespace Groupwise

open Float.Model
open Float.Model.UnpackedFloat
open Rounded

/-! ### Results of stateful computations -/

/-- Whatever the state is, the result is as `P` says. -/
def Always {σ α : Type} (x : StateM σ α) (P : α → Prop) : Prop := ∀ s, P (x.run s).1

namespace Always

variable {σ α β : Type} {P : α → Prop} {Q : β → Prop}

lemma pure {a : α} (h : P a) : Always (Pure.pure a : StateM σ α) P := fun _ => h

lemma bind {x : StateM σ α} {f : α → StateM σ β} (hx : Always x P)
    (hf : ∀ a, P a → Always (f a) Q) : Always (x >>= f) Q :=
  fun s => hf _ (hx s) _

lemma mapM {f : α → StateM σ β} {as : List α} (h : ∀ a ∈ as, Always (f a) Q) :
    Always (as.mapM f) fun bs => bs.length = as.length ∧ ∀ b ∈ bs, Q b := by
  induction as with
  | nil => exact pure ⟨rfl, List.forall_mem_nil _⟩
  | cons a as ih =>
    rw [List.mapM_cons]
    refine (h a List.mem_cons_self).bind fun b hb => ?_
    refine (ih fun a ha => h a (List.mem_cons_of_mem _ ha)).bind ?_
    rintro bs ⟨hlength, hbs⟩
    exact pure ⟨congrArg (· + 1) hlength, List.forall_mem_cons.2 ⟨hb, hbs⟩⟩

end Always

namespace Random

/-! ### Numbers below a bound -/

lemma half_lt (r : Random) : (half.run r).1 < halfBound := by
  have hword : (word.run r).1.toNat < halfBound * halfBound := (word.run r).1.toNat_lt
  exact Nat.div_lt_of_lt_mul hword

/-- The integer part of a random fraction of `n`, and what a second draw carries into it. -/
lemma run_below (n : ℕ) (r : Random) :
    ((below n).run r).1 = (half.run r).1 * n / halfBound +
      if halfBound < (half.run r).1 * n % halfBound + n then
        ((half.run r).1 * n % halfBound + (half.run (half.run r).2).1 * n / halfBound) / halfBound
      else 0 := by
  have hbind : ∀ f : ℕ → StateM Random ℕ,
      (half >>= f).run r = (f (half.run r).1).run (half.run r).2 := fun _ => rfl
  rw [below, hbind]
  dsimp only
  split_ifs <;> rfl

/-- A second draw carries something into the integer part only if the first one left room for it. -/
lemma below_lt {n : ℕ} (hpos : 0 < n) (hn : n ≤ halfBound) : Always (below n) (· < n) := by
  intro r
  have hfirst := half_lt r
  have hsecond := half_lt (half.run r).2
  rw [run_below]
  generalize (half.run r).1 = x at *
  generalize (half.run (half.run r).2).1 = y at *
  have hproduct : x * n + n ≤ halfBound * n := by nlinarith
  have hrefined : y * n / halfBound < n := by
    rw [Nat.div_lt_iff_lt_mul (by decide)]
    nlinarith
  have hsplit := Nat.div_add_mod (x * n) halfBound
  have hrest : x * n % halfBound < halfBound := Nat.mod_lt _ (by decide)
  generalize x * n / halfBound = hi at *
  generalize x * n % halfBound = lo at *
  split_ifs with hdoubt
  · have hcarry : (lo + y * n / halfBound) / halfBound < 2 := by
      rw [Nat.div_lt_iff_lt_mul (by decide)]
      omega
    have hroom : halfBound * (hi + 1) < halfBound * n := by nlinarith
    have := Nat.lt_of_mul_lt_mul_left hroom
    omega
  · have hroom : halfBound * hi < halfBound * n := by omega
    exact Nat.lt_of_mul_lt_mul_left hroom

/-! ### Prices -/

/-- The bits of a number from one up to two show how many units of `2 ^ (-52)` it has above one. -/
lemma hasValue_ofBits {w : UInt64} {n : ℕ} (hn : n < 2 ^ 52) (hw : w.toNat = 1023 * 2 ^ 52 + n) :
    HasValue (Float.ofBits w) (1 + n * 2 ^ (-52 : ℤ)) := by
  have hcanonical : Canonical (2 ^ 52 + n) (-52) := ⟨by omega, by omega, by omega, .inl (by omega)⟩
  have hmantissa : (@unpackMantissa .binary64 w.toBitVec).toNat = n := by
    rw [toNat_unpackMantissa]
    show w.toNat % 2 ^ 52 = n
    omega
  have hexponent : @unpackExponent .binary64 w.toBitVec = 1023#11 := by
    rw [← BitVec.toNat_inj, toNat_unpackExponent]
    show w.toNat / 2 ^ 52 % 2 ^ 11 = 1023
    omega
  have hsign : @unpackSign .binary64 w.toBitVec = 0#1 := by
    rw [← BitVec.toNat_inj, unpackSign_def, BitVec.extractLsb'_toNat, Nat.shiftRight_eq_div_pow]
    show w.toNat / 2 ^ 63 % 2 ^ 1 = 0
    omega
  have hunpack : UnpackedFloat.unpack .binary64 w.toBitVec =
      .finite .positive (2 ^ 52 + n) (-52) hcanonical.pos := by
    have hinf : 1023#11 ≠ -1#11 := by decide
    have hzero : 1023#11 ≠ 0#11 := by decide
    simp only [UnpackedFloat.unpack, hexponent, hsign]
    rw [if_neg hinf, if_neg hzero]
    refine finite_congr ?_ rfl
    rw [toNat_append_one, hmantissa]
  refine ⟨2 ^ 52 + n, -52, hcanonical.pos, ?_, ?_⟩
  · show (Float.Model.pack (UnpackedFloat.unpack .binary64 w.toBitVec)).unpack = _
    rw [hunpack]
    exact unpack_pack .positive hcanonical (by decide)
  · push_cast
    rw [add_mul]
    norm_num

lemma toNat_mantissa_bits (w : UInt64) :
    ((0x3ff0000000000000 : UInt64) ||| (w >>> 12)).toNat = 1023 * 2 ^ 52 + w.toNat / 2 ^ 12 := by
  have hlt := w.toNat_lt
  have hshift : (w >>> 12).toNat = w.toNat / 2 ^ 12 := by
    rw [UInt64.toNat_shiftRight, Nat.shiftRight_eq_div_pow]
    rfl
  rw [UInt64.toNat_or, hshift, mul_comm 1023,
    Nat.two_pow_add_eq_or_of_lt (i := 52) (b := w.toNat / 2 ^ 12) (by omega)]
  rfl

variable {x : Float}

/-- What a number is above one is a fraction, if it is above one at all. -/
lemma exists_fraction {n : ℕ} (hpos : 0 < n) (hn : n < 2 ^ 52)
    (hx : HasValue x (1 + n * 2 ^ (-52 : ℤ))) :
    ∃ q, HasValue (x - 1.0) q ∧ 2 ^ (-52 : ℤ) ≤ q ∧ q ≤ 1 - 2 ^ (-52 : ℤ) := by
  have hlow : Representable (2 ^ (-52 : ℤ)) :=
    representable_of_canonical (m := 2 ^ 52) (e := -104) (by decide) (by decide) (by norm_num)
  have hhigh : Representable (1 - 2 ^ (-52 : ℤ)) :=
    representable_of_canonical (m := 2 ^ 53 - 2) (e := -53) (by decide) (by decide) (by norm_num)
  have hpos' : (1 : ℚ) ≤ n := by exact_mod_cast hpos
  have hn' : (n : ℚ) + 1 ≤ 2 ^ 52 := by exact_mod_cast hn
  have hvalue : 1 + (n : ℚ) * 2 ^ (-52 : ℤ) - (1 : ℕ) = n * 2 ^ (-52 : ℤ) := by
    rw [Nat.cast_one, add_sub_cancel_left]
  rw [hx.sub_eq hasValue_one (by norm_num; exact hpos), hvalue]
  refine exists_hasValue_float hlow hhigh ?_ ?_
  · norm_num
    linarith
  · norm_num
    linarith

/-- The product of a fraction with ninety-nine stays below ninety-nine. -/
lemma exists_product {q : ℚ} (hx : HasValue x q) (hlow : 2 ^ (-52 : ℤ) ≤ q)
    (hhigh : q ≤ 1 - 2 ^ (-52 : ℤ)) :
    ∃ p, HasValue (x * 99.0) p ∧ 0 ≤ p ∧ p ≤ 99 - 2 ^ (-46 : ℤ) := by
  have hfactor : HasValue 99.0 (99 : ℕ) := hasValue_ofScientific (n := 99) (by decide) (by decide)
  have hbound : Representable (99 - 2 ^ (-46 : ℤ)) :=
    representable_of_canonical (m := 99 * 2 ^ 46 - 1) (e := -46) (by decide) (by decide)
      (by norm_num)
  have hsmall : (2 : ℚ) ^ (-1022 : ℤ) ≤ 2 ^ (-52 : ℤ) :=
    zpow_le_zpow_right₀ (by norm_num) (by norm_num)
  rw [hx.mul_eq hfactor (hsmall.trans hlow)]
  norm_num at hlow hhigh
  obtain ⟨p, hp, hqp, hle⟩ := exists_hasValue_float ⟨x, hx⟩ hbound (q := q * (99 : ℕ))
    (by norm_num; linarith) (by norm_num; linarith)
  exact ⟨p, hp, hx.pos.le.trans hqp, hle⟩

lemma run_price (r : Random) :
    (price.run r).1 =
      (Float.ofBits ((0x3ff0000000000000 : UInt64) ||| ((word.run r).1 >>> 12)) - 1.0) * 99.0 +
        1.0 := rfl

/-- A price is at least one and less than a hundred. -/
theorem price_mem : Always price fun x => 1.0 ≤ x ∧ x < 100.0 := by
  intro r
  have hn : (word.run r).1.toNat / 2 ^ 12 < 2 ^ 52 := by
    have := (word.run r).1.toNat_lt
    omega
  have hx := hasValue_ofBits hn (toNat_mantissa_bits (word.run r).1)
  rw [run_price]
  generalize Float.ofBits ((0x3ff0000000000000 : UInt64) ||| ((word.run r).1 >>> 12)) = x at hx ⊢
  generalize (word.run r).1.toNat / 2 ^ 12 = n at hn hx
  rcases Nat.eq_zero_or_pos n with rfl | hpos
  · -- The least price is exact; its fraction is zero, which has no value here.
    have hleast : x = 1.0 := by
      rw [hx.eq_float, hasValue_one.eq_float]
      norm_num
    rw [hleast]
    decide +kernel
  · obtain ⟨q, hq, hlow, hhigh⟩ := exists_fraction hpos hn hx
    obtain ⟨p, hp, hnonneg, hle⟩ := exists_product hq hlow hhigh
    have hbound : Representable (100 - 2 ^ (-46 : ℤ)) :=
      representable_of_canonical (m := 100 * 2 ^ 46 - 1) (e := -46) (by decide) (by decide)
        (by norm_num)
    rw [hp.add_eq hasValue_one]
    obtain ⟨v, hv, hone_le, hlt⟩ :=
      exists_hasValue_float ⟨_, hasValue_one⟩ hbound (q := p + (1 : ℕ))
        (by norm_num; exact hnonneg) (by rw [Nat.cast_one]; linarith)
    refine ⟨hasValue_one.le hv hone_le, hv.lt hasValue_hundred (hlt.trans_lt ?_)⟩
    norm_num

end Random

/-! ### Draws -/

namespace Draw

/-- The draw has numbers of accounts, products and letters that there are, a price from one up to a
hundred and a quantity of one to nine. -/
structure InRange (d : Draw Float) : Prop where
  account : d.account < 100000
  product : d.product < 1000
  letter : d.letter < 26
  price : 1.0 ≤ d.price ∧ d.price < 100.0
  quantity : 1 ≤ d.quantity ∧ d.quantity ≤ 9

instance (d : Draw Float) : Decidable d.InRange :=
  decidable_of_iff
    (d.account < 100000 ∧ d.product < 1000 ∧ d.letter < 26 ∧ (1.0 ≤ d.price ∧ d.price < 100.0) ∧
      1 ≤ d.quantity ∧ d.quantity ≤ 9)
    ⟨fun ⟨haccount, hproduct, hletter, hprice, hquantity⟩ =>
      ⟨haccount, hproduct, hletter, hprice, hquantity⟩,
      fun h => ⟨h.account, h.product, h.letter, h.price, h.quantity⟩⟩

lemma inRange_random : Always random InRange := by
  refine (Random.below_lt (by decide) (by decide)).bind fun account haccount => ?_
  refine (Random.below_lt (by decide) (by decide)).bind fun product hproduct => ?_
  refine (Random.below_lt (by decide) (by decide)).bind fun letter hletter => ?_
  refine Random.price_mem.bind fun price hprice => ?_
  refine (Random.below_lt (by decide) (by decide)).bind fun quantity hquantity => ?_
  exact .pure ⟨haccount, hproduct, hletter, hprice, Nat.le_add_right 1 _,
    Nat.one_add_le_iff.2 hquantity⟩

lemma inRange_randoms (n : ℕ) :
    Always (randoms n) fun ds => ds.length = n ∧ ∀ d ∈ ds, d.InRange := by
  have hrandoms : Always (randoms n) fun ds =>
      ds.length = (List.range n).length ∧ ∀ d ∈ ds, d.InRange :=
    Always.mapM fun _ _ => inRange_random
  rwa [List.length_range] at hrandoms

end Draw

end Groupwise
