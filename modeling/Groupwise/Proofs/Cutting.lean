import Groupwise.Aggregation
import Groupwise.Proofs.Sharing

/-!
# Runs fold the parts of their input

A parallel run cuts its input into parts and folds them: into maps of their own that are merged, or
into one map that all workers share. Either way the map gathers the records of the parts
(`FoldedFrom.gathers`). Which parts there are, or what stops the run before the first of them, does
not depend on what is aggregated (`ParallelAggregator.parts`).
-/

namespace Groupwise

variable {R K A : Type} [BEq K]

/-! ### What parts are folded into -/

lemma Reduction.leaves_map {α β : Type} (f : α → β) (t : Reduction α) :
    (t.map f).leaves = t.leaves.map f := by
  induction t with
  | identity => rfl
  | part a => rfl
  | join l r ihl ihr => simp [map, ihl, ihr]

lemma Reduction.map_map {α β γ : Type} (f : α → β) (g : β → γ) (t : Reduction α) :
    (t.map f).map g = t.map fun a => g (f a) := by
  induction t with
  | identity => rfl
  | part a => rfl
  | join l r ihl ihr => simp [map, ihl, ihr]

section

variable [Merge A]

/-- What comes of parts that are aggregated in a style. -/
inductive FoldedFrom (key : R → K) (zero : A) (add : A → R → A) (parts : List (List R)) :
    Style → GroupMap K A → Prop
  /-- Each part is folded into a map of its own, and these maps are merged. -/
  | immutable {t : Reduction (List R)} (h : t.leaves = parts) :
      FoldedFrom key zero add parts .immutable ((t.map (group key zero add)).value ∅ GroupMap.merge)
  /-- All parts are folded into one map, a record from this part, a record from that part. -/
  | inPlace {order : List R} {g : GroupMap K A} (h : Interleaving parts order)
      (hg : g.SameEntries (group key zero add order)) : FoldedFrom key zero add parts .inPlace g
  | inPlaceReduce {t : Reduction (List R)} (h : t.leaves = parts) :
      FoldedFrom key zero add parts .inPlaceReduce
        ((t.map (group key zero add)).value ∅ GroupMap.merge)

variable {key : R → K} {zero : A} {add : A → R → A} {parts : List (List R)} {style : Style}
  {g : GroupMap K A}

/-- A serial run folds its input as one part. -/
lemma FoldedFrom.serial (records : List R) (style : Style) :
    FoldedFrom key zero add [records] style (group key zero add records) := by
  cases style with
  | immutable => exact .immutable (t := .part records) rfl
  | inPlace =>
    have hone : Interleaving [records] [records].flatten := .flatten [records]
    rw [List.flatten_singleton] at hone
    exact .inPlace hone fun _ => rfl
  | inPlaceReduce => exact .inPlaceReduce (t := .part records) rfl

variable [EquivBEq K]

lemma FoldedFrom.gathers (h : FoldedFrom key zero add parts style g) :
    g.Gathers key (Collected zero add) parts.flatten := by
  cases h with
  | @immutable t h | @inPlaceReduce t h =>
    have ht := t.gathers_value key zero add id
    rwa [h, List.map_id] at ht
  | @inPlace order g h hg =>
    rw [← show (order : Multiset R) = parts.flatten from Multiset.coe_eq_coe.2 h.perm]
    exact (gathers_group key zero add order).of_get? hg.get?_eq

end

/-! ### The parts of parallel runs -/

namespace ParallelAggregator

/-- The parts that a run in the given style folds, or what stops it before the first of them. -/
def parts (p : ParallelAggregator K) (style : Style) (records : List R) :
    Except Trap (List (List R)) := do
  let plan ← p.plan records.length
  if style = .inPlace ∧ shardCapacity < p.lockShards then .error .capacity
  else return plan.batches.map (·.slice records)

variable {p : ParallelAggregator K} {style : Style} {records : List R} {parts : List (List R)}

lemma parts_eq_ok (h : p.parts style records = .ok parts) :
    ∃ plan, p.plan records.length = .ok plan ∧ parts = plan.batches.map (·.slice records) ∧
      (style = .inPlace → p.lockShards ≤ shardCapacity) := by
  obtain ⟨plan, hplan, h⟩ := exists_of_bind_eq_ok h
  split_ifs at h with hshards
  obtain rfl := Except.ok.inj h
  exact ⟨plan, hplan, rfl, fun hstyle => not_lt.1 fun hlt => hshards ⟨hstyle, hlt⟩⟩

/-- There is room for the batches of a run, and for its shards if its workers share a map. -/
structure HasRoom (p : ParallelAggregator K) (style : Style) (records : ℕ) : Prop where
  plannable : Plannable records p.batchSize
  shards_le : style = .inPlace → p.lockShards ≤ shardCapacity

lemma HasRoom.parts_eq (h : p.HasRoom style records.length) :
    p.parts style records =
      .ok ((evenBatches records.length p.batchSize).map (·.slice records)) := by
  rw [ParallelAggregator.parts, p.plan_of_plannable h.plannable]
  exact if_neg fun hlt => absurd (h.shards_le hlt.1) (not_le.2 hlt.2)

/-- Without room for its shards, a run that shares a map has no parts. -/
lemma parts_of_lt_lockShards (hplannable : Plannable records.length p.batchSize)
    (hshards : shardCapacity < p.lockShards) : p.parts .inPlace records = .error .capacity := by
  rw [ParallelAggregator.parts, p.plan_of_plannable hplannable]
  exact if_pos ⟨rfl, hshards⟩

end ParallelAggregator

namespace Aggregation

/-- An aggregation of records whose keys and starting values have no effects. -/
def quiet (key : R → K) (zero : A) (add : A → R → A) : Aggregation (Except Abort) R K A :=
  ⟨fun r => .ok (key r), .ok zero, add⟩

variable {p : ParallelAggregator K} {style : Style} {records : List R} {parts : List (List R)}

lemma serial_quiet (key : R → K) (zero : A) (add : A → R → A) (style : Style) (records : List R) :
    (quiet key zero add).serial style records = .ok (group key zero add records) := by
  cases style <;> exact aggregateBy_pure (m := Except Abort) key zero add records

variable [Merge A]

/-- A run that is stopped is stopped before it asks its caller anything. -/
lemma parallel_stopped {m : Type → Type} [Monad m] [LawfulMonad m] [MonadExceptOf Abort m]
    (hthrow : ∀ {α β : Type} (e : Abort) (f : α → m β), throw e >>= f = throw e)
    (a : Aggregation m R K A) {cause : Trap} (h : p.parts style records = .error cause) :
    a.parallel p style records = throw (.trap cause) := by
  rw [ParallelAggregator.parts] at h
  cases hplan : p.plan records.length with
  | error t =>
    rw [hplan] at h
    obtain rfl : t = cause := Except.error.inj h
    cases style <;>
      simp only [parallel, ParallelAggregator.aggregateBy, ParallelAggregator.aggregateInPlaceBy,
        ParallelAggregator.aggregateInPlaceByReduce, ParallelAggregator.reduceBatches, hplan,
        trapped_error, hthrow]
  | ok plan =>
    rw [hplan] at h
    split_ifs at h with hshards
    · obtain rfl : Trap.capacity = cause := Except.error.inj h
      simp only [hshards.1, parallel, ParallelAggregator.aggregateInPlaceBy, hplan, trapped_ok,
        SharedMap.new_of_lt hshards.2, trapped_error, pure_bind, hthrow]
    · cases h

/-- A run that is not stopped folds its parts. -/
lemma parallel_quiet [EquivBEq K] (hp : p.failpoints = .none) (key : R → K) (zero : A)
    (add : A → R → A) (h : p.parts style records = .ok parts) :
    ∃ g : GroupMap K A, (quiet key zero add).parallel p style records = .ok g ∧
      FoldedFrom key zero add parts style g := by
  obtain ⟨plan, hplan, rfl, hshards⟩ := ParallelAggregator.parts_eq_ok h
  have harmed : ∀ point, p.failpoints.armed point = false := fun point => by rw [hp]; rfl
  let t := (p.schedule.reduction plan.batches).map (·.slice records)
  have hleaves : t.leaves = plan.batches.map (·.slice records) := by
    rw [Reduction.leaves_map, p.schedule.leaves_reduction]
  have hreduced : p.reduced key zero add plan.batches records =
      (t.map (group key zero add)).value ∅ GroupMap.merge := by
    rw [Reduction.map_map, ParallelAggregator.reduced]
  cases style with
  | immutable =>
    have hrun :=
      p.aggregateBy_eq_reduced (m := Except Abort) key (harmed .batchFold) hplan zero add
    rw [hreduced] at hrun
    exact ⟨_, hrun, .immutable hleaves⟩
  | inPlace =>
    obtain ⟨order, horder, g, hg, hsame⟩ := p.exists_sameEntries (harmed .batchAccept) hplan
      (hshards rfl) key zero (quiet key zero add).accept
    exact ⟨g, hg, .inPlace horder hsame⟩
  | inPlaceReduce =>
    have hrun := p.aggregateInPlaceByReduce_eq_reduced (m := Except Abort) key
      (harmed .batchReduce) hplan zero (quiet key zero add).accept
    refine ⟨_, hrun, ?_⟩
    show FoldedFrom key zero add _ .inPlaceReduce (p.reduced key zero add plan.batches records)
    rw [hreduced]
    exact .inPlaceReduce hleaves

end Aggregation

end Groupwise
