import Groupwise.Config
import Groupwise.Proofs.Differences
import Groupwise.Proofs.Exact
import Groupwise.Proofs.FloatOrder

/-!
# Comparing within a tolerance

Two sums agree if both are finite and not further apart than the tolerance, or if they are one and
the same value. Where the two rules meet, at infinities, at not-a-number and under an infinite
tolerance, the comparison keeps what is expected of it (`TolerantComparison`): a summary agrees with
itself, the order of the two does not matter, a larger tolerance lets more pass, and no tolerance
makes up for a different count or for a sum that is not finite.

Of subtraction it takes no more than the laws of a `SpacedNumber`, which floats have although their
differences are rounded.
-/

namespace Groupwise

open Number

variable {V : Type} [Number V]

/-! ### Distances -/

/-- Ordered numbers with distances between them: a finite number is at no distance from itself, and
two numbers are equally far apart from either side. -/
class SpacedNumber (V : Type) [Number V] : Prop extends OrderedNumber V where
  same_iff : ∀ a b : V, same a b = true ↔ a = b
  isFinite_eq_false : ∀ a : V, isInfinite a = true ∨ isNaN a = true → isFinite a = false
  zero_isNumber : isNaN (zero : V) = false
  abs_zero : abs (zero : V) = zero
  sub_self : ∀ a : V, isFinite a = true → sub a a = zero
  abs_sub_comm : ∀ a b : V, abs (sub a b) = abs (sub b a)

instance : SpacedNumber Float where
  same_iff a b := by
    show decide (a.toBits = b.toBits) = true ↔ a = b
    rw [decide_eq_true_iff, Float.toBits_inj]
  isFinite_eq_false _ := FloatDifference.isFinite_eq_false
  zero_isNumber := rfl
  abs_zero := rfl
  sub_self _ := FloatDifference.sub_self
  abs_sub_comm := FloatDifference.abs_sub_comm

instance : SpacedNumber Exact where
  same_iff _ _ := decide_eq_true_iff
  isFinite_eq_false a h := by cases a <;> simp_all [isInfinite, isNaN, isFinite, Exact.isFinite]
  zero_isNumber := rfl
  abs_zero := congrArg Exact.finite abs_zero
  sub_self a h := by
    cases a with
    | finite q => simp [sub, Exact.add, Exact.neg, zero]
    | _ => cases h
  abs_sub_comm a b := by
    cases a <;> cases b
    case finite.finite p q =>
      show Exact.finite |p + -q| = .finite |q + -p|
      rw [← sub_eq_add_neg, ← sub_eq_add_neg, abs_sub_comm]
    all_goals rfl

/-! ### Sums -/

namespace Number

variable [SpacedNumber V] {a b t u : V}

lemma same_self (a : V) : same a a = true := (SpacedNumber.same_iff a a).2 rfl

lemma same_comm (a b : V) : same a b = same b a := by
  rw [Bool.eq_iff_iff, SpacedNumber.same_iff, SpacedNumber.same_iff, eq_comm]

lemma sumsClose_self (ht : le zero t = true) (a : V) : sumsClose a a t = true := by
  rw [sumsClose]
  split_ifs with hfinite
  · rw [Bool.and_self] at hfinite
    rw [SpacedNumber.sub_self a hfinite, SpacedNumber.abs_zero, ht]
  · exact same_self a

lemma sumsClose_comm (a b t : V) : sumsClose a b t = sumsClose b a t := by
  rw [sumsClose, sumsClose, Bool.and_comm, SpacedNumber.abs_sub_comm, same_comm]

lemma sumsClose_mono (htu : le t u = true) (h : sumsClose a b t = true) :
    sumsClose a b u = true := by
  rw [sumsClose] at h ⊢
  split_ifs at h ⊢
  · exact OrderedNumber.le_trans _ _ _ h htu
  · exact h

/-- No tolerance applies to a sum that is not finite. -/
lemma eq_of_sumsClose (h : sumsClose a b t = true) (ha : isFinite a = false) : a = b := by
  rw [sumsClose, ha, Bool.false_and, if_neg Bool.false_ne_true] at h
  exact (SpacedNumber.same_iff a b).1 h

end Number

/-! ### Tolerances -/

/-- The tolerances that a configuration may have. -/
def Admissible (t : V) : Prop := ∃ c : Config V, c.validate = .ok () ∧ c.sumTolerance = t

lemma admissible_iff {t : V} : Admissible t ↔ isNaN t = false ∧ lt t zero = false := by
  rw [← Bool.or_eq_false_iff]
  constructor
  · rintro ⟨c, hvalid, rfl⟩
    rw [Config.validate] at hvalid
    split_ifs at hvalid with _ _ _ htolerance
    exact eq_false_of_ne_true htolerance
  · intro ht
    refine ⟨⟨none, none, 0, t, 0, none, 1⟩, ?_, rfl⟩
    simp [Config.validate, ht]

lemma Admissible.zero_le [SpacedNumber V] {t : V} (h : Admissible t) : le zero t = true := by
  obtain ⟨hnumber, hlt⟩ := admissible_iff.1 h
  rw [OrderedNumber.lt_eq_not_le t zero hnumber SpacedNumber.zero_isNumber] at hlt
  simpa using hlt

/-! ### Summaries -/

/-- A comparison of summaries within a tolerance that can be relied on, whatever the summaries are:
`count` and `sum` say what no tolerance may let pass. -/
structure TolerantComparison {S : Type} (approx : S → S → V → Bool) (count : S → UInt64)
    (sum : S → V) : Prop where
  refl : ∀ s t, Admissible t → approx s s t = true
  symm : ∀ s s' t, approx s s' t = approx s' s t
  mono : ∀ s s' t u, le t u = true → approx s s' t = true → approx s s' u = true
  counts : ∀ s s' t, count s ≠ count s' → approx s s' t = false
  finite : ∀ s s' t, isFinite (sum s) = true →
    isInfinite (sum s') = true ∨ isNaN (sum s') = true → approx s s' t = false
  infinities : ∀ s s' t, isInfinite (sum s) = true → isInfinite (sum s') = true →
    sum s ≠ sum s' → approx s s' t = false

namespace TolerantComparison

variable {S T : Type} {approx : S → S → V → Bool} {count : S → UInt64} {sum : S → V}

/-- Comparing what `view` shows of the summaries. -/
lemma comap (h : TolerantComparison approx count sum) (view : T → S) :
    TolerantComparison (fun s s' => approx (view s) (view s')) (fun s => count (view s))
      fun s => sum (view s) where
  refl s := h.refl (view s)
  symm s s' := h.symm (view s) (view s')
  mono s s' := h.mono (view s) (view s')
  counts s s' := h.counts (view s) (view s')
  finite s s' := h.finite (view s) (view s')
  infinities s s' := h.infinities (view s) (view s')

end TolerantComparison

namespace Stats

lemma approxEq_eq_true {s s' : Stats V} {t : V} : s.approxEq s' t = true ↔
    s.count = s'.count ∧ same s.min s'.min = true ∧ same s.max s'.max = true ∧
      sumsClose s.sum s'.sum t = true := by
  simp only [approxEq, Bool.and_eq_true, beq_iff_eq, and_assoc]

variable [SpacedNumber V]

lemma approxEq_self {t : V} (ht : le Number.zero t = true) (s : Stats V) :
    s.approxEq s t = true :=
  approxEq_eq_true.2 ⟨rfl, same_self s.min, same_self s.max, sumsClose_self ht s.sum⟩

theorem tolerantComparison :
    TolerantComparison (V := V) Stats.approxEq Stats.count Stats.sum where
  refl s t ht := s.approxEq_self ht.zero_le
  symm s s' t := by
    rw [Bool.eq_iff_iff, approxEq_eq_true, approxEq_eq_true, @eq_comm UInt64, same_comm s.min,
      same_comm s.max, sumsClose_comm s.sum]
  mono s s' t u htu h := by
    obtain ⟨hcount, hmin, hmax, hsum⟩ := approxEq_eq_true.1 h
    exact approxEq_eq_true.2 ⟨hcount, hmin, hmax, sumsClose_mono htu hsum⟩
  counts s s' t hne := by
    rw [← Bool.not_eq_true, approxEq_eq_true]
    exact fun h => hne h.1
  finite s s' t hs hs' := by
    have hfalse := SpacedNumber.isFinite_eq_false _ hs'
    rw [← Bool.not_eq_true, approxEq_eq_true]
    rintro ⟨-, -, -, hsum⟩
    rw [sumsClose_comm] at hsum
    rw [eq_of_sumsClose hsum hfalse, hs] at hfalse
    cases hfalse
  infinities s s' t hs _ hne := by
    have hfalse := SpacedNumber.isFinite_eq_false _ (.inl hs)
    rw [← Bool.not_eq_true, approxEq_eq_true]
    rintro ⟨-, -, -, hsum⟩
    exact hne (eq_of_sumsClose hsum hfalse)

end Stats

/-- Both kinds of summaries of floats can be relied on to compare well: plain ones by themselves,
compensated ones by the summaries that they show. The tolerances that a configuration may have are
the floats that are numbers and not negative, infinity among them. -/
theorem approxEq_tolerantComparison :
    (∀ t : Float, Admissible t ↔ t.isNaN = false ∧ ¬ t < 0.0) ∧
    Admissible (1.0 / 0.0 : Float) ∧
    TolerantComparison (V := Float) Stats.approxEq Stats.count Stats.sum ∧
    TolerantComparison (V := Float) Accumulator.approxEq Accumulator.count Accumulator.sum := by
  have hadmissible : ∀ t : Float, Admissible t ↔ t.isNaN = false ∧ ¬ t < 0.0 := fun t => by
    rw [admissible_iff]
    exact and_congr_right fun _ => decide_eq_false_iff_not
  refine ⟨hadmissible, ?_, Stats.tolerantComparison,
    Stats.tolerantComparison.comap Accumulator.snapshot⟩
  exact (hadmissible _).2 ⟨by decide, by decide⟩

end Groupwise
