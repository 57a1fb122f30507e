import Groupwise.Decimal.Style
import Groupwise.Proofs.Digits
import Mathlib

/-!
# The texts of floats

A text made from a float is the name of a value that is no finite number, or it consists of digits,
points, exponent marks and signs.
-/

namespace Groupwise.Decimal

/-- A character of a number. -/
def Numeric (c : Char) : Prop := c.isDigit = true ∨ c = '.' ∨ c = 'e' ∨ c = '+' ∨ c = '-'

lemma numeric_of_mem_toDigits {n : Nat} {c : Char} (h : c ∈ Nat.toDigits 10 n) : Numeric c :=
  .inl (isDigit_of_mem_toDigits h)

namespace Style

variable {style : Style} {c : Char}

lemma numeric_of_mem_placed {ds : List Char} {point : Int} (hds : ∀ d ∈ ds, Numeric d)
    (hc : c ∈ style.placed ds point) : Numeric c := by
  have hzero : Numeric '0' := .inl rfl
  have hpoint : Numeric '.' := .inr (.inl rfl)
  have hzeros : ∀ n, ∀ d ∈ List.replicate n '0', Numeric d := fun n d hd =>
    List.eq_of_mem_replicate hd ▸ hzero
  rw [placed] at hc
  split_ifs at hc
  all_goals simp only [List.mem_cons, List.mem_append, List.not_mem_nil, or_false] at hc
  · rcases hc with rfl | rfl | hc | hc
    exacts [hzero, hpoint, hzeros _ _ hc, hds _ hc]
  · rcases hc with (hc | hc) | rfl | rfl
    exacts [hds _ hc, hzeros _ _ hc, hpoint, hzero]
  · rcases hc with hc | hc
    exacts [hds _ hc, hzeros _ _ hc]
  · rcases hc with hc | rfl | hc
    exacts [hds _ (List.mem_of_mem_take hc), hpoint, hds _ (List.mem_of_mem_drop hc)]

lemma numeric_of_mem_exponentText {e : Int} (hc : c ∈ style.exponentText e) : Numeric c := by
  rw [exponentText] at hc
  simp only [List.mem_cons, List.mem_append] at hc
  rcases hc with rfl | hc | hc
  · exact .inr (.inr (.inl rfl))
  · split_ifs at hc <;> simp only [List.mem_singleton, List.not_mem_nil] at hc
    · exact hc ▸ .inr (.inr (.inr (.inr rfl)))
    · exact hc ▸ .inr (.inr (.inr (.inl rfl)))
  · exact numeric_of_mem_toDigits hc

lemma numeric_of_mem_scientific {ds : List Char} {point : Int} (hds : ∀ d ∈ ds, Numeric d)
    (hc : c ∈ style.scientific ds point) : Numeric c := by
  match ds, hds, hc with
  | [d], hds, hc =>
    rcases List.mem_cons.1 hc with rfl | hc
    exacts [hds c (by simp), numeric_of_mem_exponentText hc]
  | d :: e :: ds, hds, hc =>
    simp only [scientific, List.mem_cons, List.mem_append] at hc
    rcases hc with rfl | rfl | hc | hc
    · exact hds c (by simp)
    · exact .inr (.inl rfl)
    · exact hds c (by simp [hc])
    · exact numeric_of_mem_exponentText hc

lemma numeric_of_mem_magnitude {x : Float} (hc : c ∈ style.magnitude x) : Numeric c := by
  rw [magnitude] at hc
  split_ifs at hc with hzero
  · rw [zeroText] at hc
    split_ifs at hc <;> simp only [List.mem_cons, List.not_mem_nil, or_false] at hc
    · rcases hc with rfl | rfl | rfl
      exacts [.inl rfl, .inr (.inl rfl), .inl rfl]
    · exact hc ▸ .inl rfl
  · have hdigits : ∀ d ∈ (shortest style.tie x).digits, Numeric d := fun d =>
      numeric_of_mem_toDigits
    rw [ofDecimal] at hc
    split_ifs at hc
    · exact numeric_of_mem_placed hdigits hc
    · exact numeric_of_mem_scientific hdigits hc

lemma numeric_of_mem_render {x : Float} (hc : c ∈ (style.render x).toList) :
    Numeric c ∨ c ∈ style.nan.toList ∨ c ∈ style.posInf.toList ∨ c ∈ style.negInf.toList := by
  rw [render] at hc
  split_ifs at hc
  · exact .inr (.inl hc)
  · exact .inr (.inr (.inr hc))
  · exact .inr (.inr (.inl hc))
  · rw [String.toList_ofList] at hc
    exact .inl (numeric_of_mem_magnitude hc)
  · rw [String.toList_ofList] at hc
    rcases List.mem_cons.1 hc with rfl | hc
    · exact .inl (.inr (.inr (.inr (.inr rfl))))
    · exact .inl (numeric_of_mem_magnitude hc)

end Style

end Groupwise.Decimal
