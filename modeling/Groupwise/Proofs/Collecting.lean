import Groupwise.Parallel
import Groupwise.Proofs.Batches
import Groupwise.Proofs.Folding

/-!
# What a map has collected

`Collected zero add rs a` says that the records `rs` make up the value `a`, each of them taken in
once: `a` comes from starting values, records added to them and merges of parts. Nothing is said
about the order, so this is what all ways to run an aggregation have in common. A map *gathers*
records if it has, for each class of their keys, a value made of the records of that class.

One record (`Gathers.upsert`) and one merge (`Gathers.merge`) keep a map gathering; by induction
over the records a serial run gathers its input (`gathers_group`), and by induction over the tree
so does a reduction, under every bracketing (`gathers_value`).
-/

namespace Groupwise

variable {R K A : Type} [BEq K]

/-! ### Collected values -/

/-- The records whose key is in the class of `k`. -/
def ofKey (key : R → K) (k : K) (rs : Multiset R) : Multiset R := rs.filter (key · == k)

lemma ofKey_coe (key : R → K) (k : K) (rs : List R) :
    ofKey key k (rs : Multiset R) = (rs.filter (key · == k) : List R) := by
  simp [ofKey]

lemma ofKey_add (key : R → K) (k : K) (rs ss : Multiset R) :
    ofKey key k (rs + ss) = ofKey key k rs + ofKey key k ss := Multiset.filter_add _ _ _

lemma ofKey_cons (key : R → K) (k : K) (r : R) (rs : Multiset R) :
    ofKey key k (r ::ₘ rs) = if key r == k then r ::ₘ ofKey key k rs else ofKey key k rs := by
  unfold ofKey
  split_ifs with h
  · exact Multiset.filter_cons_of_pos _ h
  · exact Multiset.filter_cons_of_neg _ h

lemma ofKey_ne_zero {key : R → K} {k : K} {rs : Multiset R} :
    ofKey key k rs ≠ 0 ↔ ∃ r ∈ rs, (key r == k) = true := by
  simp [ofKey, Multiset.filter_eq_nil]

section

variable [Merge A]

/-- The records `rs` make up the value `a`. -/
inductive Collected (zero : A) (add : A → R → A) : Multiset R → A → Prop
  /-- No record has been taken in. -/
  | zero : Collected zero add 0 zero
  /-- One more record. -/
  | add {rs : Multiset R} {a : A} (r : R) (h : Collected zero add rs a) :
      Collected zero add (r ::ₘ rs) (add a r)
  /-- The records of two parts. -/
  | merge {rs ss : Multiset R} {a b : A} (h : Collected zero add rs a)
      (h' : Collected zero add ss b) : Collected zero add (rs + ss) (Merge.merge a b)

end

/-- The map has a value for exactly the classes of the keys of `rs`, and for each of them `holds`
is true of the records of the class and the value. -/
def GroupMap.Gathers (key : R → K) (holds : Multiset R → A → Prop) (rs : Multiset R)
    (g : GroupMap K A) : Prop :=
  ∀ k, match g.get? k with
    | none => ofKey key k rs = 0
    | some a => ofKey key k rs ≠ 0 ∧ holds (ofKey key k rs) a

namespace GroupMap.Gathers

section

variable {key : R → K} {holds : Multiset R → A → Prop} {rs : Multiset R} {g h : GroupMap K A}

lemma holds_of_get? (hg : g.Gathers key holds rs) {k : K} {a : A} (ha : g.get? k = some a) :
    holds (ofKey key k rs) a := by
  have hk := hg k
  rw [ha] at hk
  exact hk.2

lemma contains_iff (hg : g.Gathers key holds rs) (k : K) :
    g.contains k = true ↔ ∃ r ∈ rs, (key r == k) = true := by
  rw [← ofKey_ne_zero, contains_eq_isSome_get?]
  have hk := hg k
  cases hget : g.get? k with
  | none => simp_all
  | some a => simp_all

/-- What a map gathers is a matter of what is found in it. -/
lemma of_get? (hg : g.Gathers key holds rs) (hh : ∀ k, h.get? k = g.get? k) :
    h.Gathers key holds rs := by
  intro k
  rw [hh k]
  exact hg k

lemma mapValues {B : Type} {holds' : Multiset R → B → Prop} (hg : g.Gathers key holds rs)
    (f : A → B) (hf : ∀ ss a, holds ss a → holds' ss (f a)) :
    (g.mapValues f).Gathers key holds' rs := by
  intro k
  have hk := hg k
  rw [get?_mapValues]
  cases hget : g.get? k with
  | none =>
    rw [hget] at hk
    exact hk
  | some a =>
    rw [hget] at hk
    exact ⟨hk.1, hf _ a hk.2⟩

/-- If the records of a class determine its value, then what a map gathers determines the map. -/
lemma get?_unique (hunique : ∀ ss a b, holds ss a → holds ss b → a = b)
    (hg : g.Gathers key holds rs) (hh : h.Gathers key holds rs) (k : K) : g.get? k = h.get? k := by
  have hgk := hg k
  have hhk := hh k
  cases hgget : g.get? k <;> cases hhget : h.get? k <;> rw [hgget] at hgk <;> rw [hhget] at hhk
  · exact absurd hgk hhk.1
  · exact absurd hhk hgk.1
  · rw [hunique _ _ _ hgk.2 hhk.2]

lemma mono {holds' : Multiset R → A → Prop} (hg : g.Gathers key holds rs)
    (h : ∀ ss a, holds ss a → holds' ss a) : g.Gathers key holds' rs :=
  (hg.mapValues id h).of_get? fun k => by simp

end

variable [Merge A] {key : R → K} {zero : A} {add : A → R → A} {rs ss : Multiset R}
  {g h : GroupMap K A}

lemma empty : (∅ : GroupMap K A).Gathers key (Collected zero add) 0 := fun _ => rfl

variable [EquivBEq K]

/-- One more record. -/
lemma upsert (hg : g.Gathers key (Collected zero add) rs) (r : R) :
    (g.upsert (key r) zero (add · r)).Gathers key (Collected zero add) (r ::ₘ rs) := by
  intro k
  rw [get?_upsert, ofKey_cons]
  by_cases hrk : key r == k
  · rw [if_pos hrk, if_pos hrk, g.get?_congr hrk]
    have hk := hg k
    refine ⟨Multiset.cons_ne_zero, ?_⟩
    cases hget : g.get? k with
    | none =>
      rw [hget] at hk
      rw [hk]
      exact .add r .zero
    | some a =>
      rw [hget] at hk
      exact .add r hk.2
  · rw [if_neg hrk, if_neg hrk]
    exact hg k

/-- The records of two maps: a class may have records on either side or on both. -/
lemma merge (hg : g.Gathers key (Collected zero add) rs)
    (hh : h.Gathers key (Collected zero add) ss) :
    (g.merge h).Gathers key (Collected zero add) (rs + ss) := by
  intro k
  have hgk := hg k
  have hhk := hh k
  rw [get?_merge, ofKey_add]
  cases hgget : g.get? k <;> cases hhget : h.get? k <;> rw [hgget] at hgk <;> rw [hhget] at hhk
  · simp [hgk, hhk]
  · simp only [Option.merge, hgk, zero_add, ite_self]
    exact hhk
  · simp only [Option.merge, hhk, add_zero, ite_self]
    exact hgk
  · -- both sides: the larger map comes first
    have hne : ofKey key k rs + ofKey key k ss ≠ 0 := by simp [hgk.1]
    split_ifs
    · exact ⟨hne, .merge hgk.2 hhk.2⟩
    · exact ⟨hne, add_comm (ofKey key k ss) _ ▸ .merge hhk.2 hgk.2⟩

end GroupMap.Gathers

variable [Merge A] [EquivBEq K]

theorem gathers_group (key : R → K) (zero : A) (add : A → R → A) (records : List R) :
    (group key zero add records).Gathers key (Collected zero add) records := by
  induction records using List.reverseRecOn with
  | nil => exact .empty
  | append_singleton rs r ih =>
    rw [group_snoc, ← Multiset.coe_add, Multiset.coe_singleton, add_comm, Multiset.singleton_add]
    exact ih.upsert r

/-! ### Reductions -/

namespace Reduction

variable {α β ι : Type}

/-- The same bracketing of other parts. -/
def map (f : α → β) : Reduction α → Reduction β
  | identity => identity
  | part a => part (f a)
  | join l r => join (l.map f) (r.map f)

omit [BEq K] [Merge A] [EquivBEq K] in
lemma mapM_pure {m : Type → Type} [Monad m] [LawfulMonad m] (f : α → β) (t : Reduction α) :
    t.mapM (fun a => (pure (f a) : m β)) = pure (t.map f) := by
  induction t with
  | identity => rfl
  | part a => simp [mapM, map]
  | join l r ihl ihr => simp [mapM, map, ihl, ihr]

/-- Under every bracketing, and with the empty map anywhere, a reduction of serial runs gathers the
records of all parts. -/
theorem gathers_value (key : R → K) (zero : A) (add : A → R → A) (part : ι → List R)
    (t : Reduction ι) :
    ((t.map fun i => group key zero add (part i)).value ∅ GroupMap.merge).Gathers key
      (Collected zero add) (t.leaves.map part).flatten := by
  induction t with
  | identity => exact .empty
  | part i => simpa [map, value] using gathers_group key zero add (part i)
  | join l r ihl ihr =>
    rw [leaves_join, List.map_append, List.flatten_append, ← Multiset.coe_add]
    exact ihl.merge ihr

end Reduction

/-- The map of a reducing run over the given batches, whose keys and starting values have no
effects. -/
def ParallelAggregator.reduced (p : ParallelAggregator K) (key : R → K) (zero : A)
    (add : A → R → A) (batches : List Batch) (records : List R) : GroupMap K A :=
  ((p.schedule.reduction batches).map fun b =>
    group key zero add (b.slice records)).value ∅ GroupMap.merge

namespace ParallelAggregator

/-- Batches of two, the identity on both sides of the bracketing, and two workers that look at
their first records before either of them goes on. -/
def inPairs : ParallelAggregator String where
  overflow := .stops
  batchSize := ⟨2, by decide⟩
  lockShards := 0
  failpoints := .none
  schedule :=
    { reduction := fun parts => .join .identity (.join (.leftToRight parts) .identity)
      leaves_reduction := by simp
      turns := [0, 1, 0, 1, 1, 0]
      spread := default }

section

omit [Merge A] [EquivBEq K]

/-- An aggregator plans even batches if there is room for them. -/
lemma plan_of_plannable (p : ParallelAggregator K) {n : ℕ} (h : Plannable n p.batchSize) :
    p.plan n = .ok ⟨n, p.batchSize.val, evenBatches n p.batchSize⟩ := planBatches_of_plannable h

end

section

omit [EquivBEq K]

variable {m : Type → Type} [Monad m] [LawfulMonad m] [MonadExceptOf Abort m]
  (p : ParallelAggregator K) (key : R → K) {records : List R} {plan : BatchPlan}

lemma reduceBatches_pure {point : Failpoint} (hp : p.failpoints.armed point = false)
    (hplan : p.plan records.length = .ok plan) (zero : A) (add : A → R → A) :
    p.reduceBatches point
        (Groupwise.aggregateBy (fun r => (pure (key r) : m K)) (pure zero) add) records =
      pure (p.reduced key zero add plan.batches records) := by
  simp [reduceBatches, hplan, Failpoints.pass, hp, aggregateBy_pure, Reduction.mapM_pure, reduced]

lemma aggregateBy_eq_reduced (hp : p.failpoints.armed .batchFold = false)
    (hplan : p.plan records.length = .ok plan) (zero : A) (add : A → R → A) :
    p.aggregateBy (fun r => (pure (key r) : m K)) (pure zero) add records =
      pure (p.reduced key zero add plan.batches records) :=
  p.reduceBatches_pure key hp hplan zero add

lemma aggregateInPlaceByReduce_eq_reduced (hp : p.failpoints.armed .batchReduce = false)
    (hplan : p.plan records.length = .ok plan) (factory : A) (accept : R → StateM A Unit) :
    p.aggregateInPlaceByReduce (fun r => (pure (key r) : m K)) (pure factory) accept records =
      pure (p.reduced key factory (changeBy accept) plan.batches records) :=
  p.reduceBatches_pure key hp hplan factory (changeBy accept)

end

theorem gathers_reduced (p : ParallelAggregator K) (key : R → K) (zero : A) (add : A → R → A)
    (batches : List Batch) (records : List R) :
    (p.reduced key zero add batches records).Gathers key (Collected zero add)
      (batches.map (·.slice records)).flatten := by
  have h := (p.schedule.reduction batches).gathers_value key zero add (·.slice records)
  rwa [p.schedule.leaves_reduction] at h

end ParallelAggregator

end Groupwise
