import Groupwise.Number
import Mathlib

/-!
# The least and the greatest of measured values

The least value seen so far is a number even if no value was, and neither the order in which values
come nor the way they are merged matters to it. All that is needed of the numbers is their order:
they lie on a line with two ends, and not-a-number lies beside it (`OrderedNumber`). The greatest
value is the least one of the opposite order, so both are one notion, an `Extreme`.
-/

namespace Groupwise

open Number

variable {V : Type} [Number V]

/-! ### Ordered numbers -/

/-- Numbers on a line that ends with the infinities. Nothing is said about their arithmetic. -/
class OrderedNumber (V : Type) [Number V] : Prop where
  posInf_isNumber : isNaN (posInf : V) = false
  negInf_isNumber : isNaN (negInf : V) = false
  le_posInf : ∀ a : V, isNaN a = false → le a posInf = true
  negInf_le : ∀ a : V, isNaN a = false → le negInf a = true
  le_total : ∀ a b : V, isNaN a = false → isNaN b = false → le a b = true ∨ le b a = true
  le_trans : ∀ a b c : V, le a b = true → le b c = true → le a c = true
  lt_eq_not_le : ∀ a b : V, isNaN a = false → isNaN b = false → lt a b = !le b a

/-- Numbers that compare as their ranks in a linear order do. -/
lemma orderedNumber_of_rank {L : Type} [LinearOrder L] (rank : V → L)
    (hle : ∀ a b : V, le a b = true ↔ isNaN a = false ∧ isNaN b = false ∧ rank a ≤ rank b)
    (hlt : ∀ a b : V, isNaN a = false → isNaN b = false → (lt a b = true ↔ rank a < rank b))
    (hpos : isNaN (posInf : V) = false) (hneg : isNaN (negInf : V) = false)
    (htop : ∀ a, rank a ≤ rank posInf) (hbot : ∀ a, rank negInf ≤ rank a) :
    OrderedNumber V where
  posInf_isNumber := hpos
  negInf_isNumber := hneg
  le_posInf a ha := (hle a posInf).2 ⟨ha, hpos, htop a⟩
  negInf_le a ha := (hle negInf a).2 ⟨hneg, ha, hbot a⟩
  le_total a b ha hb := by
    rw [hle, hle]
    exact (le_total (rank a) (rank b)).imp (fun h => ⟨ha, hb, h⟩) fun h => ⟨hb, ha, h⟩
  le_trans a b c hab hbc := by
    rw [hle] at hab hbc ⊢
    exact ⟨hab.1, hbc.2.1, hab.2.2.trans hbc.2.2⟩
  lt_eq_not_le a b ha hb := by
    rw [Bool.eq_iff_iff, Bool.not_eq_true', ← Bool.not_eq_true, hlt a b ha hb, hle, ← not_le]
    simp [ha, hb]

/-- The relation `upto` lines up all numbers, and `last` comes last. -/
structure LinesUp (upto : V → V → Bool) (last : V) : Prop where
  last_isNumber : isNaN last = false
  upto_last : ∀ a : V, isNaN a = false → upto a last = true
  total : ∀ a b : V, isNaN a = false → isNaN b = false → upto a b = true ∨ upto b a = true
  trans : ∀ a b c : V, upto a b = true → upto b c = true → upto a c = true

lemma linesUp_le [OrderedNumber V] : LinesUp (V := V) le posInf where
  last_isNumber := OrderedNumber.posInf_isNumber
  upto_last := OrderedNumber.le_posInf
  total := OrderedNumber.le_total
  trans := OrderedNumber.le_trans

lemma linesUp_ge [OrderedNumber V] : LinesUp (V := V) (fun a b => le b a) negInf where
  last_isNumber := OrderedNumber.negInf_isNumber
  upto_last := OrderedNumber.negInf_le
  total a b ha hb := OrderedNumber.le_total b a hb ha
  trans a b c hab hbc := OrderedNumber.le_trans c b a hbc hab

/-! ### Picking the first of two values -/

/-- The value that comes first; not-a-number counts as no value at all. -/
def pick (upto : V → V → Bool) (a b : V) : V :=
  if isNaN a then b else if isNaN b then a else if upto a b then a else b

lemma least_eq_pick [OrderedNumber V] (a b : V) : least a b = pick le a b := by
  unfold least pick
  cases ha : isNaN a with
  | true => rfl
  | false =>
    cases hb : isNaN b with
    | true => rfl
    | false =>
      rw [OrderedNumber.lt_eq_not_le _ _ hb ha]
      cases hle : le a b <;> simp

lemma greatest_eq_pick [OrderedNumber V] (a b : V) :
    greatest a b = pick (fun a b => le b a) a b := by
  unfold greatest pick
  cases ha : isNaN a with
  | true => rfl
  | false =>
    cases hb : isNaN b with
    | true => rfl
    | false =>
      rw [OrderedNumber.lt_eq_not_le _ _ ha hb]
      cases hle : le b a <;> simp [hle]

/-! ### Extremes -/

/-- The number `x` is the first one of `vs`, or `last` if there are no numbers among them. -/
structure Extreme (upto : V → V → Bool) (last : V) (vs : Multiset V) (x : V) : Prop where
  isNumber : isNaN x = false
  first : ∀ v ∈ vs, isNaN v = false → upto x v = true
  attained : x = last ∨ x ∈ vs

/-- The least number of `vs`. -/
abbrev LeastOf : Multiset V → V → Prop := Extreme le posInf

/-- The greatest number of `vs`. -/
abbrev GreatestOf : Multiset V → V → Prop := Extreme (fun a b => le b a) negInf

namespace Extreme

variable {upto : V → V → Bool} {last : V} {vs ws : Multiset V} {x y : V}

lemma zero (line : LinesUp upto last) : Extreme upto last 0 last :=
  ⟨line.last_isNumber, by simp, .inl rfl⟩

/-- One more value. -/
lemma pick_value (line : LinesUp upto last) (h : Extreme upto last vs x) (v : V) :
    Extreme upto last (v ::ₘ vs) (pick upto x v) := by
  rw [pick, h.isNumber, if_neg Bool.false_ne_true]
  have hmem : x = last ∨ x ∈ v ::ₘ vs := h.attained.imp_right Multiset.mem_cons_of_mem
  cases hv : isNaN v with
  | true =>
    refine ⟨h.isNumber, fun w hw hwn => ?_, hmem⟩
    rcases Multiset.mem_cons.1 hw with rfl | hw
    · simp [hv] at hwn
    · exact h.first w hw hwn
  | false =>
    rw [if_neg Bool.false_ne_true]
    split_ifs with hxv
    · refine ⟨h.isNumber, fun w hw hwn => ?_, hmem⟩
      rcases Multiset.mem_cons.1 hw with rfl | hw
      · exact hxv
      · exact h.first w hw hwn
    · refine ⟨hv, fun w hw hwn => ?_, .inr (Multiset.mem_cons_self v vs)⟩
      have hvx : upto v x = true := (line.total x v h.isNumber hv).resolve_left hxv
      rcases Multiset.mem_cons.1 hw with rfl | hw
      · simpa using line.total w w hwn hwn
      · exact line.trans v x w hvx (h.first w hw hwn)

/-- The values of two parts. -/
lemma pick_merge (line : LinesUp upto last) (h : Extreme upto last vs x)
    (h' : Extreme upto last ws y) : Extreme upto last (vs + ws) (pick upto x y) := by
  rw [pick, h.isNumber, h'.isNumber, if_neg Bool.false_ne_true, if_neg Bool.false_ne_true]
  split_ifs with hxy
  · refine ⟨h.isNumber, fun w hw hwn => ?_, h.attained.imp_right (by simp +contextual)⟩
    rcases Multiset.mem_add.1 hw with hw | hw
    · exact h.first w hw hwn
    · exact line.trans x y w hxy (h'.first w hw hwn)
  · have hyx : upto y x = true := (line.total x y h.isNumber h'.isNumber).resolve_left hxy
    refine ⟨h'.isNumber, fun w hw hwn => ?_, h'.attained.imp_right (by simp +contextual)⟩
    rcases Multiset.mem_add.1 hw with hw | hw
    · exact line.trans y x w hyx (h.first w hw hwn)
    · exact h'.first w hw hwn

/-- Two extremes of the same values come before each other. -/
lemma upto_of_extreme (line : LinesUp upto last) (h : Extreme upto last vs x)
    (h' : Extreme upto last vs y) : upto x y = true := by
  rcases h'.attained with rfl | hy
  · exact line.upto_last x h.isNumber
  · exact h.first y hy h'.isNumber

end Extreme

variable [OrderedNumber V] {vs : Multiset V} {x y : V}

lemma Number.equal_comm {V : Type} [Number V] (x y : V) : Number.equal x y = Number.equal y x :=
  Bool.and_comm _ _

lemma Number.equal_trans {z : V} (h : Number.equal x y = true) (h' : Number.equal y z = true) :
    Number.equal x z = true := by
  simp only [Number.equal, Bool.and_eq_true] at h h' ⊢
  exact ⟨OrderedNumber.le_trans _ _ _ h.1 h'.1, OrderedNumber.le_trans _ _ _ h'.2 h.2⟩

theorem LeastOf.equal (h : LeastOf vs x) (h' : LeastOf vs y) : Number.equal x y = true := by
  rw [Number.equal, Bool.and_eq_true]
  exact ⟨h.upto_of_extreme linesUp_le h', h'.upto_of_extreme linesUp_le h⟩

theorem GreatestOf.equal (h : GreatestOf vs x) (h' : GreatestOf vs y) :
    Number.equal x y = true := by
  rw [Number.equal, Bool.and_eq_true]
  have hxy := h'.upto_of_extreme linesUp_ge h
  have hyx := h.upto_of_extreme linesUp_ge h'
  exact ⟨hxy, hyx⟩

end Groupwise
