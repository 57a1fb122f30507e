import Groupwise.Text.Digits
import Mathlib

/-!
# Digits

Decimal digits of a number start with zero only for zero. A hexadecimal digit is read back, and so
are bytes written as pairs of digits.
-/

namespace Groupwise

/-! ### Runs of characters -/

section

variable {α : Type} {p : α → Bool}

lemma takeWhile_append_stop {as bs : List α} (has : ∀ a ∈ as, p a = true)
    (hbs : ∀ b ∈ bs.head?, p b = false) : (as ++ bs).takeWhile p = as := by
  rw [List.takeWhile_append_of_pos has]
  cases bs with
  | nil => rw [List.takeWhile_nil, List.append_nil]
  | cons b bs => rw [List.takeWhile_cons_of_neg (by simp [hbs b rfl]), List.append_nil]

lemma dropWhile_append_stop {as bs : List α} (has : ∀ a ∈ as, p a = true)
    (hbs : ∀ b ∈ bs.head?, p b = false) : (as ++ bs).dropWhile p = bs := by
  rw [List.dropWhile_append_of_pos has]
  cases bs with
  | nil => rfl
  | cons b bs => rw [List.dropWhile_cons_of_neg (by simp [hbs b rfl])]

end

/-! ### Decimal digits -/

lemma isDigit_of_mem_toDigits {n : Nat} {c : Char} (h : c ∈ Nat.toDigits 10 n) :
    c.isDigit = true :=
  Nat.isDigit_of_mem_toDigits (by decide) (by decide) h

lemma head?_toDigits_ne_zero {n : Nat} (hn : 0 < n) : (Nat.toDigits 10 n).head? ≠ some '0' := by
  induction n using Nat.strong_induction_on with
  | _ n ih =>
    rw [Nat.toDigits_eq_if (by decide)]
    split_ifs with hlt
    · intro hzero
      have := Nat.digitChar_eq_zero.1 (Option.some.inj hzero)
      omega
    · have hq : 0 < n / 10 := by omega
      rw [List.head?_append_of_ne_nil _ Nat.toDigits_ne_nil]
      exact ih (n / 10) (by omega) hq

lemma ofDigitChars_le {cs : List Char} {n : Nat} : n ≤ Nat.ofDigitChars 10 cs n := by
  induction cs generalizing n with
  | nil => simp
  | cons c cs ih =>
    rw [Nat.ofDigitChars_cons]
    exact le_trans (by omega) ih

/-! ### Hexadecimal digits -/

namespace Hex

lemma value?_digitChar {d : Nat} (hd : d < 16) : value? (Nat.digitChar d) = some d := by
  interval_cases d <;> rfl

lemma decode?_encode (bytes : List UInt8) : decode? (encode bytes) = some bytes := by
  induction bytes with
  | nil => rfl
  | cons b bytes ih =>
    have hhigh : value? (Nat.digitChar (b.toNat / 16)) = some (b.toNat / 16) :=
      value?_digitChar (by have := b.toNat_lt; omega)
    have hlow : value? (Nat.digitChar (b.toNat % 16)) = some (b.toNat % 16) :=
      value?_digitChar (Nat.mod_lt _ (by decide))
    have hbyte : UInt8.ofNat (b.toNat / 16 * 16 + b.toNat % 16) = b := by
      rw [Nat.div_add_mod', UInt8.ofNat_toNat]
    show decode? (_ :: _ :: encode bytes) = _
    simp only [decode?, hhigh, hlow, ih, Option.bind_eq_bind, Option.bind_some, hbyte]
    rfl

@[simp] lemma length_encode (bytes : List UInt8) : (encode bytes).length = 2 * bytes.length := by
  induction bytes with
  | nil => rfl
  | cons b bytes ih =>
    rw [encode, List.flatMap_cons, List.length_append, ← encode, ih, List.length_cons]
    simp only [List.length_cons, List.length_nil]
    omega

end Hex

end Groupwise
