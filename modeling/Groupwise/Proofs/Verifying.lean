import Groupwise.Proofs.Maps
import Groupwise.Verify

/-!
# What the check of a result reports

Two maps have the same keys, or one of them lacks a key of the other (`GroupMap.Lacks`). The check
looks for keys that are missing, then for keys that should not be there, and then for values that
differ, each time in the order in which a map happens to list its entries. What it finds is the
verdict that the maps deserve (`verdict_verifyMapsEqual`), and the conditions of the verdicts
exclude each other, so the verdict tells which of them holds (`verifyMapsEqual_decides`). Which
offending key is named depends on the order, the kind of the verdict does not.
-/

namespace Groupwise

variable {V K A B : Type} [BEq K]

/-! ### Keys -/

namespace GroupMap

/-- The key `k` of `h` has no entry in `g`. -/
def Lacks (g : GroupMap K A) (h : GroupMap K B) (k : K) : Prop :=
  k ∈ h.keys ∧ g.contains k = false

/-- The maps have entries for the same classes of keys. -/
def SameKeys (g : GroupMap K A) (h : GroupMap K B) : Prop := ∀ k, g.contains k = h.contains k

lemma lacks_of_find? {g : GroupMap K A} {h : GroupMap K B} {k : K}
    (hk : h.keys.find? (fun k => !g.contains k) = some k) : g.Lacks h k :=
  ⟨List.mem_of_find?_eq_some hk, by simpa using List.find?_some hk⟩

lemma find?_eq_none_iff_not_lacks {g : GroupMap K A} {h : GroupMap K B} :
    h.keys.find? (fun k => !g.contains k) = none ↔ ∀ k, ¬ g.Lacks h k := by
  simp [List.find?_eq_none, Lacks]

variable [EquivBEq K]

lemma contains_of_not_lacks {g : GroupMap K A} {h : GroupMap K B} (hgh : ∀ k, ¬ g.Lacks h k)
    {k : K} (hk : h.contains k = true) : g.contains k = true := by
  obtain ⟨l, hl, hlk⟩ := contains_iff.1 hk
  rw [← g.contains_congr hlk, ← Bool.not_eq_false]
  exact fun hfalse => hgh l ⟨hl, hfalse⟩

/-- Maps have the same keys if and only if neither lacks a key of the other. -/
lemma sameKeys_iff {g : GroupMap K A} {h : GroupMap K B} :
    g.SameKeys h ↔ (∀ k, ¬ h.Lacks g k) ∧ ∀ k, ¬ g.Lacks h k := by
  constructor
  · intro hgh
    have hself : ∀ {A : Type} {g : GroupMap K A} {k : K}, k ∈ g.keys → g.contains k = true :=
      fun hk => contains_iff.2 ⟨_, hk, BEq.rfl⟩
    constructor
    · rintro k ⟨hk, hfalse⟩
      rw [← hgh, hself hk] at hfalse
      cases hfalse
    · rintro k ⟨hk, hfalse⟩
      rw [hgh, hself hk] at hfalse
      cases hfalse
  · rintro ⟨hhg, hgh⟩ k
    exact Bool.eq_iff_iff.2 ⟨contains_of_not_lacks hhg, contains_of_not_lacks hgh⟩

end GroupMap

/-! ### Verdicts -/

/-- The entry `k, want` of the expected map differs from the value that the actual map has. -/
structure Differs [ApproxEq V A] (expected actual : GroupMap K A) (tolerance : V) (k : K)
    (want got : A) : Prop where
  expected : (k, want) ∈ expected.entries
  actual : actual.get? k = some got
  apart : ApproxEq.approxEq want got tolerance = false

/-- The values that the two maps have for a key are within the tolerance. -/
def Agree [ApproxEq V A] (expected actual : GroupMap K A) (tolerance : V) : Prop :=
  ∀ k want got, expected.get? k = some want → actual.get? k = some got →
    ApproxEq.approxEq want got tolerance = true

/-- What there is to say about two maps. -/
inductive Verdict [ApproxEq V A] (expected actual : GroupMap K A) (tolerance : V) :
    Except (VerifyError V K A) Unit → Prop
  | missing {k : K} (h : actual.Lacks expected k) :
      Verdict expected actual tolerance (.error (.missingKey k))
  | unexpected {k : K} (hall : ∀ k, ¬ actual.Lacks expected k) (h : expected.Lacks actual k) :
      Verdict expected actual tolerance (.error (.unexpectedKey k))
  | mismatch {k : K} {want got : A} (hkeys : expected.SameKeys actual)
      (h : Differs expected actual tolerance k want got) :
      Verdict expected actual tolerance (.error (.valueMismatch k want got tolerance))
  | agree (hkeys : expected.SameKeys actual) (h : Agree expected actual tolerance) :
      Verdict expected actual tolerance (.ok ())

section

variable [EquivBEq K]

/-- The check of keys finds a key that one of the maps lacks. Maps with the same keys are of one
size, so nothing is left to say about sizes. -/
lemma verifySameKeys_cases (expected : GroupMap K A) (actual : GroupMap K B) :
    (∃ k, actual.Lacks expected k ∧
      verifySameKeys expected actual = (.error (.missingKey k) : Except (VerifyError V K A) Unit)) ∨
    (∃ k, (∀ k, ¬ actual.Lacks expected k) ∧ expected.Lacks actual k ∧
      verifySameKeys expected actual =
        (.error (.unexpectedKey k) : Except (VerifyError V K A) Unit)) ∨
    expected.SameKeys actual ∧
      verifySameKeys expected actual = (.ok () : Except (VerifyError V K A) Unit) := by
  unfold verifySameKeys
  cases hmissing : expected.keys.find? fun k => !actual.contains k with
  | some k => exact .inl ⟨k, GroupMap.lacks_of_find? hmissing, rfl⟩
  | none =>
    have hall := GroupMap.find?_eq_none_iff_not_lacks.1 hmissing
    cases hunexpected : actual.keys.find? fun k => !expected.contains k with
    | some k => exact .inr (.inl ⟨k, hall, GroupMap.lacks_of_find? hunexpected, rfl⟩)
    | none =>
      have hkeys := GroupMap.sameKeys_iff.2
        ⟨hall, GroupMap.find?_eq_none_iff_not_lacks.1 hunexpected⟩
      refine .inr (.inr ⟨hkeys, ?_⟩)
      dsimp only
      rw [if_neg (not_not.2 (GroupMap.size_eq_of_contains hkeys))]

variable [ApproxEq V A] {expected actual : GroupMap K A} {tolerance : V}

omit [EquivBEq K] in
lemma mismatch?_eq_some {e : K × A} {cause : VerifyError V K A} (he : e ∈ expected.entries)
    (h : mismatch? actual tolerance e = some cause) :
    ∃ got, cause = .valueMismatch e.1 e.2 got tolerance ∧
      Differs expected actual tolerance e.1 e.2 got := by
  unfold mismatch? at h
  split at h
  · cases h
  · next got hgot =>
    split_ifs at h with happrox
    cases h
    exact ⟨got, rfl, he, hgot, by simpa using happrox⟩

lemma approxEq_of_mismatch?_eq_none {e : K × A} {k : K} {got : A} (hek : (e.1 == k) = true)
    (hgot : actual.get? k = some got) (h : mismatch? actual tolerance e = none) :
    ApproxEq.approxEq e.2 got tolerance = true := by
  unfold mismatch? at h
  rw [actual.get?_congr hek, hgot] at h
  by_contra happrox
  simp [happrox] at h

lemma Differs.not_agree {k : K} {want got : A}
    (h : Differs expected actual tolerance k want got) : ¬ Agree expected actual tolerance := by
  intro hagree
  have hwant : expected.get? k = some want := by
    rw [GroupMap.get?_eq, GroupMap.mem_entries_iff.1 h.expected, Option.map_some]
  have happrox := hagree k want got hwant h.actual
  rw [h.apart] at happrox
  cases happrox

/-- The check of two maps comes to the verdict that they deserve. -/
theorem verdict_verifyMapsEqual (expected actual : GroupMap K A) (tolerance : V) :
    Verdict expected actual tolerance (verifyMapsEqual expected actual tolerance) := by
  unfold verifyMapsEqual
  rcases verifySameKeys_cases (V := V) expected actual with
    ⟨k, hk, hresult⟩ | ⟨k, hall, hk, hresult⟩ | ⟨hkeys, hresult⟩
  · rw [hresult]
    exact .missing hk
  · rw [hresult]
    exact .unexpected hall hk
  · rw [hresult]
    cases hfound : expected.entries.findSome? (mismatch? actual tolerance) with
    | none =>
      refine .agree hkeys fun k want got hwant hgot => ?_
      obtain ⟨e, he, rfl⟩ := Option.map_eq_some_iff.1 hwant
      obtain ⟨hmem, hek⟩ := GroupMap.find?_eq_some_iff.1 he
      exact approxEq_of_mismatch?_eq_none hek hgot (List.findSome?_eq_none_iff.1 hfound e hmem)
    | some cause =>
      obtain ⟨e, he, hcause⟩ := List.exists_of_findSome?_eq_some hfound
      obtain ⟨got, rfl, hdiffers⟩ := mismatch?_eq_some he hcause
      exact .mismatch hkeys hdiffers

/-! ### What a verdict tells -/

namespace Verdict

variable {r : Except (VerifyError V K A) Unit}

lemma eq_ok_iff (h : Verdict expected actual tolerance r) :
    r = .ok () ↔ expected.SameKeys actual ∧ Agree expected actual tolerance := by
  cases h with
  | missing h => simpa using fun hkeys => absurd h ((GroupMap.sameKeys_iff.1 hkeys).1 _)
  | unexpected hall h => simpa using fun hkeys => absurd h ((GroupMap.sameKeys_iff.1 hkeys).2 _)
  | mismatch hkeys h => simpa using fun _ => h.not_agree
  | agree hkeys h => simpa using ⟨hkeys, h⟩

lemma missing_iff (h : Verdict expected actual tolerance r) :
    (∃ k, r = .error (.missingKey k)) ↔ ∃ k, actual.Lacks expected k := by
  cases h with
  | missing h => simpa using ⟨_, h⟩
  | unexpected hall h => simpa using hall
  | mismatch hkeys h => simpa using (GroupMap.sameKeys_iff.1 hkeys).1
  | agree hkeys h => simpa using (GroupMap.sameKeys_iff.1 hkeys).1

lemma unexpected_iff (h : Verdict expected actual tolerance r) :
    (∃ k, r = .error (.unexpectedKey k)) ↔
      (∀ k, ¬ actual.Lacks expected k) ∧ ∃ k, expected.Lacks actual k := by
  cases h with
  | missing h => simpa using fun hall => absurd h (hall _)
  | unexpected hall h => simpa using ⟨hall, _, h⟩
  | mismatch hkeys h => simpa using fun _ => (GroupMap.sameKeys_iff.1 hkeys).2
  | agree hkeys h => simpa using fun _ => (GroupMap.sameKeys_iff.1 hkeys).2

lemma mismatch_iff (h : Verdict expected actual tolerance r) :
    (∃ k want got, r = .error (.valueMismatch k want got tolerance)) ↔
      expected.SameKeys actual ∧ ∃ k want got, Differs expected actual tolerance k want got := by
  cases h with
  | missing h => simpa using fun hkeys => absurd h ((GroupMap.sameKeys_iff.1 hkeys).1 _)
  | unexpected hall h => simpa using fun hkeys => absurd h ((GroupMap.sameKeys_iff.1 hkeys).2 _)
  | mismatch hkeys h => simpa using ⟨hkeys, _, _, _, h⟩
  | agree hkeys h => simpa using fun _ _ _ _ hdiffers => hdiffers.not_agree h

end Verdict

/-- The check of two maps decides what it should: it passes if and only if the maps have the same
keys and values within the tolerance, and otherwise reports the first of the three kinds of
disagreement that there is, with a key and values that disagree in this way. It never reports sizes.
-/
theorem verifyMapsEqual_decides (expected actual : GroupMap K A) (tolerance : V) :
    (verifyMapsEqual expected actual tolerance = .ok () ↔
      expected.SameKeys actual ∧ Agree expected actual tolerance) ∧
    ((∃ k, verifyMapsEqual expected actual tolerance = .error (.missingKey k)) ↔
      ∃ k, actual.Lacks expected k) ∧
    ((∃ k, verifyMapsEqual expected actual tolerance = .error (.unexpectedKey k)) ↔
      (∀ k, ¬ actual.Lacks expected k) ∧ ∃ k, expected.Lacks actual k) ∧
    ((∃ k want got, verifyMapsEqual expected actual tolerance =
        .error (.valueMismatch k want got tolerance)) ↔
      expected.SameKeys actual ∧ ∃ k want got, Differs expected actual tolerance k want got) ∧
    ∀ cause, verifyMapsEqual expected actual tolerance = .error cause → match cause with
      | .missingKey k => actual.Lacks expected k
      | .unexpectedKey k => expected.Lacks actual k
      | .valueMismatch k want got t =>
        t = tolerance ∧ Differs expected actual tolerance k want got
      | .sizeMismatch _ _ => False := by
  have h := verdict_verifyMapsEqual expected actual tolerance
  refine ⟨h.eq_ok_iff, h.missing_iff, h.unexpected_iff, h.mismatch_iff, ?_⟩
  rintro cause hcause
  rw [hcause] at h
  cases h with
  | missing h => exact h
  | unexpected hall h => exact h
  | mismatch hkeys h => exact ⟨rfl, h⟩

end

/-- Sums that differ under a key which the two maps list in different places. -/
theorem verifyMapsEqual_decides_sums :
    let expected : GroupMap String Int := .ofList [("a", 1), ("b", 2)]
    let actual : GroupMap String Int := .ofList [("b", 3), ("a", 1)]
    expected.SameKeys actual ∧ Differs expected actual (0.5 : Float) "b" 2 3 ∧
      ∃ k want got,
        verifyMapsEqual expected actual (0.5 : Float) = .error (.valueMismatch k want got 0.5) := by
  intro expected actual
  have hkeys : expected.SameKeys actual := by
    refine GroupMap.sameKeys_iff.2 ⟨fun k hk => ?_, fun k hk => ?_⟩
    all_goals
      obtain ⟨hmem, hfalse⟩ := hk
      rcases List.mem_pair.1 hmem with rfl | rfl <;> cases hfalse
  have hdiffers : Differs expected actual (0.5 : Float) "b" 2 3 :=
    ⟨by decide, rfl, rfl⟩
  obtain ⟨-, -, -, hmismatch, -⟩ := verifyMapsEqual_decides expected actual (0.5 : Float)
  exact ⟨hkeys, hdiffers, hmismatch.2 ⟨hkeys, _, _, _, hdiffers⟩⟩

end Groupwise
