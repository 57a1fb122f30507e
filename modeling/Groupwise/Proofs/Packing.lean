import Groupwise.Decimal
import Groupwise.Proofs.Rounding
import Mathlib

/-!
# Floats and their bits

A finite float shows its sign, its mantissa and its exponent in its bits, and the mantissa and the
exponent are canonical (`of_unpack_eq_finite`). A canonical pair that fits is packed into bits
without loss (`unpack_pack`).
-/

namespace Groupwise.Rounded

open Float.Model
open Float.Model.UnpackedFloat

lemma toNat_append_one {n : ℕ} (m : BitVec n) : (1#1 ++ m).toNat = 2 ^ n + m.toNat := by
  rw [BitVec.toNat_append, ← Nat.shiftLeft_add_eq_or_of_lt m.isLt]
  simp [Nat.shiftLeft_eq]

lemma toNat_unpackMantissa (b : BitVec 64) :
    (@unpackMantissa .binary64 b).toNat = b.toNat % Binary.leadingBit := by
  rw [unpackMantissa_def, BitVec.extractLsb'_toNat]
  rfl

lemma toNat_unpackExponent (b : BitVec 64) :
    (@unpackExponent .binary64 b).toNat = b.toNat / Binary.leadingBit % 0x800 := by
  rw [unpackExponent_def, BitVec.extractLsb'_toNat, Nat.shiftRight_eq_div_pow]
  rfl

/-- A finite float shows its mantissa and its exponent, which are canonical. -/
lemma of_unpack_eq_finite {x : Float} {s : Sign} {m : ℕ} {e : ℤ} {hm : 0 < m}
    (h : x.toModel.unpack = .finite s m e hm) :
    Binary.ofFloat x = ⟨m, e⟩ ∧ Canonical m e ∧ e ≤ 971 := by
  have hfraction : (@unpackMantissa .binary64 x.toModel.toBits.toBitVec).toNat =
      x.toBits.toNat % Binary.leadingBit := toNat_unpackMantissa _
  have hbiased : (@unpackExponent .binary64 x.toModel.toBits.toBitVec).toNat =
      x.toBits.toNat / Binary.leadingBit % 0x800 := toNat_unpackExponent _
  have hlt : x.toBits.toNat % Binary.leadingBit < 2 ^ 52 := Nat.mod_lt _ (by decide)
  have hlt' : x.toBits.toNat / Binary.leadingBit % 0x800 < 2 ^ 11 := Nat.mod_lt _ (by decide)
  simp only [Binary.ofFloat]
  generalize x.toBits.toNat % Binary.leadingBit = f at *
  generalize x.toBits.toNat / Binary.leadingBit % 0x800 = k at *
  unfold Float.Model.unpack UnpackedFloat.unpack at h
  dsimp only at h
  have hinf : @unpackExponent .binary64 x.toModel.toBits.toBitVec = -1#11 ↔ k = 2047 := by
    rw [← hbiased, ← BitVec.toNat_inj]
    rfl
  have hzero : @unpackExponent .binary64 x.toModel.toBits.toBitVec = 0#11 ↔ k = 0 := by
    rw [← hbiased, ← BitVec.toNat_inj]
    rfl
  split_ifs at h with h₁ h₂ h₃ h₄
  · -- A tiny float, without a leading bit.
    injection h with _ hm' he'
    have hm'' : f = m := hfraction.symm.trans hm'
    have he'' : e = -1074 := by
      rw [← he', hbiased, hzero.1 h₃]
      rfl
    subst hm'' he''
    rw [hzero.1 h₃, if_pos rfl]
    exact ⟨rfl, ⟨hm, by omega, le_rfl, .inr rfl⟩, by omega⟩
  · -- All other floats, whose leading bit is left out.
    have hk₁ : k ≠ 2047 := fun hk => h₁ (hinf.2 hk)
    have hk₂ : k ≠ 0 := fun hk => h₃ (hzero.2 hk)
    injection h with _ hm' he'
    rw [toNat_append_one, hfraction] at hm'
    have hm'' : m = Binary.leadingBit + f := hm'.symm
    have he'' : e = k - 1075 := by
      rw [← he', hbiased]
      rfl
    subst hm'' he''
    rw [if_neg hk₂]
    have hleading : Binary.leadingBit = 2 ^ 52 := rfl
    exact ⟨rfl, ⟨hm, by omega, by omega, .inl (by omega)⟩, by omega⟩

/-- The first bit of a finite float is its sign. -/
lemma shiftRight_eq_zero_iff {x : Float} {s : Sign} {m : ℕ} {e : ℤ} {hm : 0 < m}
    (h : x.toModel.unpack = .finite s m e hm) : x.toBits >>> 63 = 0 ↔ s = .positive := by
  have hsign : s = Sign.ofBitVec (@unpackSign .binary64 x.toModel.toBits.toBitVec) := by
    unfold Float.Model.unpack UnpackedFloat.unpack at h
    dsimp only at h
    split_ifs at h <;> injection h with hs <;> exact hs.symm
  have hbit : (@unpackSign .binary64 x.toModel.toBits.toBitVec).toNat =
      (x.toBits >>> 63).toNat := by
    have hlt : x.toBits.toNat < 2 ^ 64 := x.toBits.toNat_lt
    rw [unpackSign_def, BitVec.extractLsb'_toNat, UInt64.toNat_shiftRight]
    show x.toBits.toNat >>> 63 % 2 ^ 1 = x.toBits.toNat >>> 63
    rw [Nat.shiftRight_eq_div_pow]
    omega
  rw [← UInt64.toNat_inj, ← hbit, hsign, Sign.ofBitVec]
  generalize @unpackSign .binary64 x.toModel.toBits.toBitVec = b
  rw [show (0 : UInt64).toNat = (0#1).toNat from rfl, BitVec.toNat_inj]
  split_ifs with hb
  · simp [hb]
  · simp [hb]

lemma finite_congr {s : Sign} {m n : ℕ} {e k : ℤ} {hm : 0 < m} {hn : 0 < n} (hmn : m = n)
    (hek : e = k) : UnpackedFloat.finite s m e hm = .finite s n k hn := by
  subst hmn hek
  rfl

lemma ofNat_ne_ofNat {k i j : ℕ} (hi : i < 2 ^ k) (hj : j < 2 ^ k) (hij : i ≠ j) :
    BitVec.ofNat k i ≠ BitVec.ofNat k j := by
  intro h
  have hnat := congrArg BitVec.toNat h
  rw [BitVec.toNat_ofNat, BitVec.toNat_ofNat, Nat.mod_eq_of_lt hi, Nat.mod_eq_of_lt hj] at hnat
  exact hij hnat

/-- A canonical mantissa and exponent that fit are packed without loss. -/
lemma unpack_pack {m : ℕ} {e : ℤ} (s : Sign) (h : Canonical m e) (he : e ≤ 971) :
    (Float.Model.pack (.finite s m e h.pos)).unpack = .finite s m e h.pos := by
  have hle := h.le
  have hlt := h.lt
  have hbias : e + Format.binary64.exponentBias + Format.binary64.mantissaBitsWithoutImplicit =
      e + 1075 := by
    show e + 1023 + 52 = _
    omega
  have hfits : ¬ 2 ^ 11 ≤ (e + 1075).toNat + 1 := by omega
  unfold Float.Model.pack Float.Model.unpack
  simp only [UnpackedFloat.pack, hbias]
  rw [if_neg hfits]
  by_cases hnormal : 2 ^ 52 ≤ m
  · have hlog : m.log2 + 1 = 53 := by
      have := (Nat.le_log2 h.pos.ne').2 hnormal
      have := (Nat.log2_lt h.pos.ne').2 hlt
      omega
    have hexponent : (BitVec.ofNat 11 (e + 1075).toNat).toNat = (e + 1075).toNat := by
      rw [BitVec.toNat_ofNat, Nat.mod_eq_of_lt (by omega)]
    have hinf : BitVec.ofNat 11 (e + 1075).toNat ≠ -1#11 :=
      ofNat_ne_ofNat (j := 2047) (by omega) (by decide) (by omega)
    have hzero : BitVec.ofNat 11 (e + 1075).toNat ≠ 0#11 :=
      ofNat_ne_ofNat (by omega) (by decide) (by omega)
    rw [if_pos (by exact hlog)]
    simp only [UnpackedFloat.unpack, unpackMantissa_packComponents, unpackExponent_packComponents,
      unpackSign_packComponents, Sign.ofBitVec_toBitVec, hinf, hzero, ↓reduceIte]
    refine finite_congr ?_ ?_
    · rw [toNat_append_one, BitVec.toNat_ofNat]
      omega
    · rw [hexponent]
      show ((e + 1075).toNat : ℤ) - (1023 + 52) = e
      omega
  · obtain rfl : e = -1074 := h.normal.resolve_left hnormal
    have hlog : ¬ m.log2 + 1 = 53 := by
      have := (Nat.log2_lt h.pos.ne').2 (Nat.lt_of_not_le hnormal)
      omega
    have hmantissa : (BitVec.ofNat 52 m).toNat = m := by
      rw [BitVec.toNat_ofNat, Nat.mod_eq_of_lt (by omega)]
    have hzero : BitVec.ofNat 52 m ≠ 0#52 :=
      ofNat_ne_ofNat (by omega) (by decide) h.pos.ne'
    have hinf : 0#11 ≠ -1#11 := by decide
    rw [if_neg (by exact hlog)]
    simp only [UnpackedFloat.unpack, unpackMantissa_packComponents, unpackExponent_packComponents,
      unpackSign_packComponents, Sign.ofBitVec_toBitVec, hinf, hzero, ↓reduceIte, ↓reduceDIte]
    exact finite_congr hmantissa rfl

end Groupwise.Rounded
