import Groupwise.Decimal.Literal
import Groupwise.Decimal.Style
import Groupwise.Proofs.Decimals
import Groupwise.Proofs.Digits
import Mathlib

/-!
# The texts of numbers are read back

A natural number below the bound is read from its digits (`Literal.nat_toDigits`). In any style, the
text of a decimal is a literal of the same value, and the text of a finite float is read as that
float (`Literal.float_render`). In tables this holds of every float (`Literal.float_render_table`).
-/

namespace Groupwise

open Float.Model
open Float.Model.UnpackedFloat
open Rounded

namespace Literal

open Decimal

variable {cs ds : List Char}

/-! ### Runs of digits -/

lemma digitsValue_append : digitsValue (cs ++ ds) = Nat.ofDigitChars 10 ds (digitsValue cs) :=
  Nat.ofDigitChars_append 0

lemma digitsValue_toDigits (n : Nat) : digitsValue (Nat.toDigits 10 n) = n :=
  Nat.ofDigitChars_ten_toDigits

/-- Zeros in front of digits count for nothing. -/
lemma digitsValue_zeros_append (n : Nat) :
    digitsValue (List.replicate n '0' ++ ds) = digitsValue ds := by
  have hzeros : digitsValue (List.replicate n '0') = 0 := Nat.ofDigitChars_replicate_zero
  rw [digitsValue_append, hzeros]
  rfl

lemma digitsValue_append_zeros (n : Nat) :
    digitsValue (ds ++ List.replicate n '0') = 10 ^ n * digitsValue ds := by
  rw [digitsValue_append, Nat.ofDigitChars_replicate_zero]

lemma isDigit_zeros (n : Nat) : ∀ c ∈ List.replicate n '0', c.isDigit = true := by
  intro c hc
  rw [List.eq_of_mem_replicate hc]
  rfl

lemma isDigit_append (hcs : ∀ c ∈ cs, c.isDigit = true) (hds : ∀ c ∈ ds, c.isDigit = true) :
    ∀ c ∈ cs ++ ds, c.isDigit = true := by
  intro c hc
  rcases List.mem_append.1 hc with hc | hc
  exacts [hcs c hc, hds c hc]

/-! ### Natural numbers -/

lemma digitIn_ten {c : Char} (hc : c.isDigit = true) :
    digitIn 10 c = some (c.toNat - '0'.toNat) := by
  have hrange : 48 ≤ c.toNat ∧ c.toNat ≤ 57 := Char.isDigit_iff_toNat.1 hc
  have hdigit : '0' ≤ c ∧ c ≤ '9' :=
    ⟨UInt32.le_iff_toNat_le.2 hrange.1, UInt32.le_iff_toNat_le.2 hrange.2⟩
  have hlt : c.toNat - '0'.toNat < 10 := by
    show c.toNat - 48 < 10
    omega
  rw [digitIn, Hex.value?, if_pos hdigit, Option.filter_some, if_pos (by simpa using hlt)]

lemma natAfter_digits {bound n : Nat} (hds : ∀ c ∈ ds, c.isDigit = true)
    (h : Nat.ofDigitChars 10 ds n < bound) :
    natAfter 10 bound n ds = .ok (Nat.ofDigitChars 10 ds n) := by
  induction ds generalizing n with
  | nil => rfl
  | cons d ds ih =>
    rw [Nat.ofDigitChars_cons] at h ⊢
    rw [natAfter, digitIn_ten (hds d List.mem_cons_self)]
    simp only [if_pos (lt_of_le_of_lt ofDigitChars_le h)]
    exact ih (fun c hc => hds c (List.mem_cons_of_mem d hc)) h

lemma nat_toDigits {bound n : Nat} (h : n < bound) : nat 10 bound (Nat.toDigits 10 n) = .ok n := by
  have hds : ∀ c ∈ Nat.toDigits 10 n, c.isDigit = true := fun c => isDigit_of_mem_toDigits
  have hvalue : Nat.ofDigitChars 10 (Nat.toDigits 10 n) 0 = n := Nat.ofDigitChars_ten_toDigits
  have hread := natAfter_digits hds (hvalue.symm ▸ h)
  obtain ⟨d, ds, hcons⟩ := List.exists_cons_of_ne_nil (Nat.toDigits_ne_nil (b := 10) (n := n))
  have hplus : d ≠ '+' := by
    rintro rfl
    have := hds '+' (by simp [hcons])
    cases this
  rw [hvalue] at hread
  rw [hcons] at hread ⊢
  rw [nat]
  · exact hread
  all_goals simp [hplus]

lemma natAfter_lt {base bound m n : Nat} (hm : m < bound) (h : natAfter base bound m cs = .ok n) :
    n < bound := by
  induction cs generalizing m with
  | nil => cases h; exact hm
  | cons c cs ih =>
    rw [natAfter] at h
    split at h
    · cases h
    · split_ifs at h with hlt
      exact ih hlt h

/-- What is read is below the bound. -/
lemma nat_lt {base bound n : Nat} (hbound : 0 < bound) (h : nat base bound cs = .ok n) :
    n < bound := by
  unfold nat at h
  split at h
  · cases h
  · cases h
  · exact natAfter_lt hbound h
  · exact natAfter_lt hbound h

/-! ### Exponents -/

lemma ne_of_isDigit {c d : Char} (hc : c.isDigit = true) (hd : d.isDigit = false) : c ≠ d := by
  rintro rfl
  rw [hc] at hd
  cases hd

lemma exponent?_minus (hne : ds ≠ []) (hds : ds.all Char.isDigit = true) :
    exponent? ('e' :: '-' :: ds) = some (-(digitsValue ds : Int)) := by
  simp [exponent?, hne, hds]

lemma exponent?_plus (hne : ds ≠ []) (hds : ds.all Char.isDigit = true) :
    exponent? ('e' :: '+' :: ds) = some (digitsValue ds : Int) := by
  simp [exponent?, hne, hds]

lemma exponent?_digits (hne : ds ≠ []) (hds : ds.all Char.isDigit = true) :
    exponent? ('e' :: ds) = some (digitsValue ds : Int) := by
  obtain ⟨d, ds, rfl⟩ := List.exists_cons_of_ne_nil hne
  have hd : d.isDigit = true := List.all_eq_true.1 hds d List.mem_cons_self
  simp [exponent?, ne_of_isDigit (d := '-') hd rfl, ne_of_isDigit (d := '+') hd rfl, hds]

lemma exponent?_exponentText (style : Decimal.Style) (e : Int) :
    exponent? (style.exponentText e) = some e := by
  have hne : Nat.toDigits 10 e.natAbs ≠ [] := Nat.toDigits_ne_nil
  have hdigits : (Nat.toDigits 10 e.natAbs).all Char.isDigit = true :=
    List.all_eq_true.2 fun c => isDigit_of_mem_toDigits
  rw [Decimal.Style.exponentText]
  split_ifs with hneg hplus
  · refine (exponent?_minus hne hdigits).trans ?_
    rw [digitsValue_toDigits]
    exact congrArg some (by omega)
  · refine (exponent?_plus hne hdigits).trans ?_
    rw [digitsValue_toDigits]
    exact congrArg some (by omega)
  · refine (exponent?_digits hne hdigits).trans ?_
    rw [digitsValue_toDigits]
    exact congrArg some (by omega)

/-! ### Decimals -/

/-- A text that continues no run of digits and begins with no point. -/
def Ends (rest : List Char) : Prop := ∀ c ∈ rest.head?, c.isDigit = false ∧ c ≠ '.'

lemma ends_nil : Ends [] := by
  intro c hc
  cases hc

lemma ends_exponentText (style : Decimal.Style) (e : Int) : Ends (style.exponentText e) := by
  intro c hc
  obtain rfl : 'e' = c := Option.some.inj hc
  exact ⟨rfl, by decide⟩

/-- Digits without a point. -/
lemma decimal?_whole {rest : List Char} (hne : ds ≠ []) (hds : ∀ c ∈ ds, c.isDigit = true)
    (hrest : Ends rest) :
    decimal? (ds ++ rest) = (exponent? rest).map fun e => ⟨digitsValue ds, e⟩ := by
  have hstop : ∀ c ∈ rest.head?, c.isDigit = false := fun c hc => (hrest c hc).1
  rw [decimal?, takeWhile_append_stop hds hstop, dropWhile_append_stop hds hstop]
  match rest, hrest with
  | [], _ => simp [hne]
  | c :: rest, hrest =>
    have hc : c ≠ '.' := (hrest c rfl).2
    simp [hne, hc]

/-- Digits around a point. -/
lemma decimal?_pointed {rest : List Char} (hne : cs ≠ []) (hcs : ∀ c ∈ cs, c.isDigit = true)
    (hds : ∀ c ∈ ds, c.isDigit = true) (hrest : Ends rest) :
    decimal? (cs ++ '.' :: (ds ++ rest)) =
      (exponent? rest).map fun e => ⟨digitsValue (cs ++ ds), e - ds.length⟩ := by
  have hpoint : ∀ c ∈ ('.' :: (ds ++ rest)).head?, c.isDigit = false := by
    intro c hc
    obtain rfl : '.' = c := Option.some.inj hc
    rfl
  have hstop : ∀ c ∈ rest.head?, c.isDigit = false := fun c hc => (hrest c hc).1
  rw [decimal?, takeWhile_append_stop hcs hpoint, dropWhile_append_stop hcs hpoint]
  simp only [takeWhile_append_stop hds hstop, dropWhile_append_stop hds hstop, hne, false_and,
    ↓reduceIte]

/-- The text is a literal of the given value. -/
def Denotes (text : List Char) (q : ℚ) : Prop := ∃ d, decimal? text = some d ∧ d.value = q

lemma denotes_pointed {rest : List Char} {e : Int} {q : ℚ} (hne : cs ≠ [])
    (hcs : ∀ c ∈ cs, c.isDigit = true) (hds : ∀ c ∈ ds, c.isDigit = true) (hrest : Ends rest)
    (he : exponent? rest = some e) (hq : digitsValue (cs ++ ds) * 10 ^ (e - ds.length) = q) :
    Denotes (cs ++ '.' :: (ds ++ rest)) q := by
  refine ⟨⟨digitsValue (cs ++ ds), e - ds.length⟩, ?_, hq⟩
  rw [decimal?_pointed hne hcs hds hrest, he]
  rfl

lemma denotes_whole {rest : List Char} {e : Int} {q : ℚ} (hne : ds ≠ [])
    (hds : ∀ c ∈ ds, c.isDigit = true) (hrest : Ends rest) (he : exponent? rest = some e)
    (hq : digitsValue ds * 10 ^ e = q) : Denotes (ds ++ rest) q := by
  refine ⟨⟨digitsValue ds, e⟩, ?_, hq⟩
  rw [decimal?_whole hne hds hrest, he]
  rfl

section

variable (style : Decimal.Style) (point : Int) (hds : ∀ c ∈ ds, c.isDigit = true)

include hds

lemma denotes_placed_before (hpoint : point ≤ 0) :
    Denotes (style.placed ds point) (digitsValue ds * 10 ^ (point - ds.length)) := by
  have hvalue : digitsValue (['0'] ++ (List.replicate (-point).toNat '0' ++ ds)) = digitsValue ds :=
    (digitsValue_zeros_append 1).trans (digitsValue_zeros_append _)
  rw [Decimal.Style.placed, if_pos hpoint, ← List.append_nil (List.replicate _ _ ++ ds)]
  show Denotes (['0'] ++ '.' :: _) _
  refine denotes_pointed (by simp) (isDigit_zeros 1)
    (isDigit_append (isDigit_zeros _) hds) ends_nil rfl ?_
  rw [hvalue, List.length_append, List.length_replicate]
  congr 2
  omega

variable (hne : ds ≠ [])

include hne

lemma denotes_placed_behind (hpoint : 0 < point) (hlen : ds.length ≤ point.toNat) :
    Denotes (style.placed ds point) (digitsValue ds * 10 ^ (point - ds.length)) := by
  have hexponent : point - ds.length = (point.toNat - ds.length : ℕ) := by omega
  have hne' : ∀ n, ds ++ List.replicate n '0' ≠ [] := by simp [hne]
  have hdigits : ∀ n, ∀ c ∈ ds ++ List.replicate n '0', c.isDigit = true := fun n =>
    isDigit_append hds (isDigit_zeros n)
  rw [Decimal.Style.placed, if_neg (by omega), if_pos hlen, hexponent, zpow_natCast]
  by_cases hmark : style.marksWhole
  · have hvalue : digitsValue (ds ++ List.replicate (point.toNat - ds.length + 1) '0') = _ :=
      digitsValue_append_zeros _
    rw [List.replicate_succ', ← List.append_assoc] at hvalue
    rw [if_pos hmark]
    show Denotes (_ ++ '.' :: (['0'] ++ [])) _
    refine denotes_pointed (hne' _) (hdigits _) (isDigit_zeros 1) ends_nil rfl ?_
    rw [hvalue, pow_succ]
    push_cast
    rw [List.length_singleton, Nat.cast_one, zero_sub, zpow_neg_one]
    ring
  · rw [if_neg hmark]
    refine denotes_whole (hne' _) (hdigits _) ends_nil rfl ?_
    rw [digitsValue_append_zeros, zpow_zero, mul_one]
    push_cast
    ring

lemma denotes_placed_within (hpoint : 0 < point) (hlen : ¬ ds.length ≤ point.toNat) :
    Denotes (style.placed ds point) (digitsValue ds * 10 ^ (point - ds.length)) := by
  have hfirst : ∀ c ∈ ds.take point.toNat, c.isDigit = true := fun c hc =>
    hds c (List.mem_of_mem_take hc)
  have hlast : ∀ c ∈ ds.drop point.toNat, c.isDigit = true := fun c hc =>
    hds c (List.mem_of_mem_drop hc)
  have htake : ds.take point.toNat ≠ [] := by
    rw [ne_eq, List.take_eq_nil_iff]
    rintro (h | h)
    · omega
    · exact hne h
  rw [Decimal.Style.placed, if_neg (by omega), if_neg hlen, ← List.append_nil (ds.drop _)]
  refine denotes_pointed htake hfirst hlast ends_nil rfl ?_
  rw [List.take_append_drop, List.length_drop]
  congr 2
  omega

lemma denotes_placed :
    Denotes (style.placed ds point) (digitsValue ds * 10 ^ (point - ds.length)) := by
  by_cases hpoint : point ≤ 0
  · exact denotes_placed_before style point hds hpoint
  · by_cases hlen : ds.length ≤ point.toNat
    · exact denotes_placed_behind style point hds hne (not_le.1 hpoint) hlen
    · exact denotes_placed_within style point hds hne (not_le.1 hpoint) hlen

lemma denotes_scientific :
    Denotes (style.scientific ds point) (digitsValue ds * 10 ^ (point - ds.length)) := by
  match ds, hne, hds with
  | [d], hne, hds =>
    exact denotes_whole hne hds (ends_exponentText style _) (exponent?_exponentText style _) rfl
  | d :: e :: ds, hne, hds =>
    have hd : ∀ c ∈ [d], c.isDigit = true := by
      intro c hc
      exact hds c (List.mem_cons.2 (.inl (List.mem_singleton.1 hc)))
    have htail : ∀ c ∈ e :: ds, c.isDigit = true := fun c hc => hds c (List.mem_cons_of_mem d hc)
    show Denotes ([d] ++ '.' :: (e :: ds ++ _)) _
    refine denotes_pointed (by simp) hd htail (ends_exponentText style (point - 1))
      (exponent?_exponentText style (point - 1)) ?_
    rw [List.singleton_append, List.length_cons (a := d)]
    congr 2
    push_cast
    ring

end

/-- The text of a decimal is a literal of the same value. -/
lemma denotes_ofDecimal (style : Decimal.Style) (d : Decimal) :
    Denotes (style.ofDecimal d) d.value := by
  have hdigits : ∀ c ∈ d.digits, c.isDigit = true := fun c => isDigit_of_mem_toDigits
  have hne : d.digits ≠ [] := Nat.toDigits_ne_nil
  have hvalue : (digitsValue d.digits : ℚ) * 10 ^ (d.point - d.digits.length) = d.value := by
    rw [Decimal.point, add_sub_cancel_left, Decimal.digits, digitsValue_toDigits, Decimal.value]
  rw [Decimal.Style.ofDecimal, ← hvalue]
  split_ifs
  · exact denotes_placed style _ hdigits hne
  · exact denotes_scientific style _ hdigits hne

/-! ### Floats -/

lemma exists_cons_of_decimal? {text : List Char} {d : Decimal} (h : decimal? text = some d) :
    ∃ c rest, text = c :: rest ∧ (c.isDigit = true ∨ c = '.') := by
  match text with
  | [] => cases h
  | c :: rest =>
    refine ⟨c, rest, rfl, ?_⟩
    by_contra hc
    obtain ⟨hdigit, hpoint⟩ := not_or.1 hc
    simp [decimal?, hdigit, hpoint] at h

/-- A decimal literal is no name and has no sign. -/
lemma float_of_decimal? {text : List Char} {d : Decimal} (h : decimal? text = some d) :
    magnitude? text = some d.toFloat ∧ float text = .ok d.toFloat := by
  obtain ⟨c, rest, rfl, hc⟩ := exists_cons_of_decimal? h
  -- No name and no sign begins with a digit or a point.
  have hname : c.toLower ≠ 'i' ∧ c.toLower ≠ 'n' ∧ c ≠ '-' ∧ c ≠ '+' := by
    rcases hc with hdigit | rfl
    · have hlower : c.toLower = c := Char.toLower_eq_of_not_isUpper (by
        have hle : c.toNat ≤ 57 := (Char.isDigit_iff_toNat.1 hdigit).2
        simp only [Char.isUpper, Bool.decide_and, Bool.and_eq_true, decide_eq_true_eq]
        rintro ⟨hupper, -⟩
        have hge : 65 ≤ c.toNat := UInt32.le_iff_toNat_le.1 hupper
        omega)
      rw [hlower]
      exact ⟨ne_of_isDigit hdigit rfl, ne_of_isDigit hdigit rfl, ne_of_isDigit hdigit rfl,
        ne_of_isDigit hdigit rfl⟩
    · decide
  obtain ⟨hi, hn, hminus, hplus⟩ := hname
  have hmagnitude : magnitude? (c :: rest) = some d.toFloat := by
    simp [magnitude?, hi, hn, h]
  refine ⟨hmagnitude, ?_⟩
  simp [float, hminus, hplus, hmagnitude]

variable {style : Decimal.Style} {x : Float}

/-- The text of the float without its sign is a literal that is read as the float. -/
def ReadsBack (style : Decimal.Style) (x : Float) : Prop :=
  ∃ d, decimal? (style.magnitude x) = some d ∧ d.toFloat = x

lemma readsBack_zero (style : Decimal.Style) : ReadsBack style 0.0 := by
  have hzero : ((0.0 : Float) == 0.0) = true := by decide +kernel
  rw [ReadsBack, Decimal.Style.magnitude, if_pos hzero, Decimal.Style.zeroText]
  split_ifs
  · exact ⟨⟨0, -1⟩, rfl, toFloat_zero _⟩
  · exact ⟨⟨0, 0⟩, rfl, toFloat_zero _⟩

lemma readsBack_of_isPositive (style : Decimal.Style) (hx : IsPositive x.toModel.unpack = true) :
    ReadsBack style x := by
  have hne : (x == 0.0) = false := by
    obtain ⟨m, e, hm, hunpack⟩ := exists_of_isPositive hx
    show x.toModel.unpack.beq (0.0 : Float).toModel.unpack = false
    rw [hunpack]
    rfl
  have hshortest := toFloat_shortest_eq style.tie hx
  obtain ⟨d, hd, hvalue⟩ := denotes_ofDecimal style (shortest style.tie x)
  rw [ReadsBack, Decimal.Style.magnitude, hne]
  refine ⟨d, hd, ?_⟩
  rw [← toFloat_congr (coefficient_pos (by rwa [hshortest])) hvalue.symm, hshortest]

section

variable (hnumber : x.isNaN = false) (hfinite : x.isInf = false)

include hnumber hfinite

lemma float_render_of_nonneg (hsign : x.toBits >>> 63 = 0) (h : ReadsBack style x) :
    float (style.render x).toList = .ok x := by
  obtain ⟨d, hd, hvalue⟩ := h
  have htext : (style.render x).toList = style.magnitude x := by
    simp only [Decimal.Style.render, hnumber, hfinite, hsign, ↓reduceIte, Bool.false_eq_true,
      String.toList_ofList]
  rw [htext, (float_of_decimal? hd).2, hvalue]

lemma float_render_of_neg (hsign : x.toBits >>> 63 ≠ 0) (h : ReadsBack style x.abs)
    (habs : -x.abs = x) : float (style.render x).toList = .ok x := by
  obtain ⟨d, hd, hvalue⟩ := h
  have htext : (style.render x).toList = '-' :: style.magnitude x.abs := by
    simp only [Decimal.Style.render, hnumber, hfinite, hsign, ↓reduceIte, Bool.false_eq_true,
      String.toList_ofList]
  rw [htext, float, (float_of_decimal? hd).1, hvalue]
  simp only [habs]

end

/-- The text of a finite float is read as that float. -/
theorem float_render (style : Decimal.Style) (hx : x.isFinite = true) :
    float (style.render x).toList = .ok x := by
  have hpack := pack_unpack x
  have hfinite : x.toModel.unpack.isFinite = true := hx
  have hnumber : x.isNaN = x.toModel.unpack.isNaN := rfl
  have hinf : x.isInf = x.toModel.unpack.isInf := rfl
  match hunpack : x.toModel.unpack with
  | .notANumber | .infinity _ =>
    rw [hunpack] at hfinite
    cases hfinite
  | .zero .positive =>
    obtain rfl : x = 0.0 := by
      rw [← hpack, hunpack]
      decide +kernel
    exact float_render_of_nonneg rfl rfl (by decide +kernel) (readsBack_zero style)
  | .zero .negative =>
    obtain rfl : x = -0.0 := by
      rw [← hpack, hunpack]
      decide +kernel
    have habs : (-0.0 : Float).abs = 0.0 := by decide +kernel
    refine float_render_of_neg rfl rfl (by decide +kernel) ?_ (by decide +kernel)
    rw [habs]
    exact readsBack_zero style
  | .finite .positive m e hm =>
    rw [hunpack] at hnumber hinf
    refine float_render_of_nonneg hnumber hinf ((shiftRight_eq_zero_iff hunpack).2 rfl)
      (readsBack_of_isPositive style ?_)
    rw [hunpack]
    rfl
  | .finite .negative m e hm =>
    rw [hunpack] at hnumber hinf
    have hsign : x.toBits >>> 63 ≠ 0 := fun h => by
      cases (shiftRight_eq_zero_iff hunpack).1 h
    have habs : x.abs.toModel.unpack = .finite .positive m e hm := by
      obtain ⟨_, hcanonical, he⟩ := of_unpack_eq_finite hunpack
      show (Float.Model.pack x.toModel.unpack.abs).unpack = _
      rw [hunpack]
      exact unpack_pack .positive hcanonical he
    refine float_render_of_neg hnumber hinf hsign (readsBack_of_isPositive style ?_) ?_
    · rw [habs]
      rfl
    · show Float.ofModel (Float.Model.pack x.abs.toModel.unpack.neg) = x
      rw [habs, ← hpack, hunpack]
      rfl

/-- In a table, infinities and not-a-number have names, which are read too. -/
theorem float_render_table (x : Float) : float (table.render x).toList = .ok x := by
  have hpack := pack_unpack x
  match hunpack : x.toModel.unpack with
  | .notANumber =>
    obtain rfl : x = 0.0 / 0.0 := by
      rw [← hpack, hunpack]
      decide +kernel
    decide +kernel
  | .infinity .positive =>
    obtain rfl : x = 1.0 / 0.0 := by
      rw [← hpack, hunpack]
      decide +kernel
    decide +kernel
  | .infinity .negative =>
    obtain rfl : x = -(1.0 / 0.0) := by
      rw [← hpack, hunpack]
      decide +kernel
    decide +kernel
  | .zero _ | .finite _ _ _ _ =>
    refine float_render table ?_
    show x.toModel.unpack.isFinite = true
    rw [hunpack]
    rfl

end Literal

end Groupwise
