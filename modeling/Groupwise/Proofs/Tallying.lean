import Groupwise.Proofs.FloatOrder
import Groupwise.Proofs.Running

/-!
# What the results of all runs have in common

Whatever a sum makes of the order in which values come, the number of values and the extremes do not
depend on it: both kinds of summaries keep them under additions and merges (`Summarizes`), the
number as a word. So the results of two runs over the same positions have the same keys, counts and
extremes, and as positions in memory are fewer than there are words, the counts are exact.
-/

namespace Groupwise

open Number

/-! ### Summaries -/

section

variable {V : Type} [Number V]

/-- The count, as a word, and the extremes of the values `vs`. -/
structure Summarizes (vs : Multiset V) (count : UInt64) (low high : V) : Prop where
  count_eq : count = UInt64.ofNat vs.card
  low_least : LeastOf vs low
  high_greatest : GreatestOf vs high

namespace Summarizes

variable {vs ws : Multiset V} {m n : UInt64} {low high low' high' : V}

/-- The count of fewer values than there are words is their number. -/
lemma toNat_count (h : Summarizes vs n low high) (hcard : vs.card < wordBound) :
    n.toNat = vs.card := by
  rw [h.count_eq]
  exact UInt64.toNat_ofNat_of_lt' hcard

variable [OrderedNumber V]

lemma zero : Summarizes (0 : Multiset V) 0 posInf negInf :=
  ⟨rfl, .zero linesUp_le, .zero linesUp_ge⟩

lemma add (h : Summarizes vs n low high) (v : V) :
    Summarizes (v ::ₘ vs) (n + 1) (least low v) (greatest high v) := by
  rw [least_eq_pick, greatest_eq_pick]
  refine ⟨?_, h.low_least.pick_value linesUp_le v, h.high_greatest.pick_value linesUp_ge v⟩
  rw [Multiset.card_cons, h.count_eq, UInt64.ofNat_add]
  rfl

lemma merge (h : Summarizes vs m low high) (h' : Summarizes ws n low' high') :
    Summarizes (vs + ws) (m + n) (least low low') (greatest high high') := by
  rw [least_eq_pick, greatest_eq_pick]
  refine ⟨?_, h.low_least.pick_merge linesUp_le h'.low_least,
    h.high_greatest.pick_merge linesUp_ge h'.high_greatest⟩
  rw [Multiset.card_add, h.count_eq, h'.count_eq, UInt64.ofNat_add]

end Summarizes

variable {R : Type} [OrderedNumber V] {value : R → V} {rs : Multiset R}

lemma Collected.summarizes_stats {s : Stats V}
    (h : Collected Stats.zero (fun s r => s.addValue (value r)) rs s) :
    Summarizes (rs.map value) s.count s.min s.max := by
  induction h with
  | zero => exact .zero
  | add r _ ih =>
    rw [Multiset.map_cons]
    exact ih.add (value r)
  | merge _ _ iha ihb =>
    rw [Multiset.map_add]
    exact iha.merge ihb

/-- The plain summary that an accumulator carries along. -/
def Accumulator.plain (a : Accumulator V) : Stats V := ⟨a.count, a.plainSum, a.min, a.max⟩

omit [OrderedNumber V] in
lemma Collected.plain {a : Accumulator V}
    (h : Collected Accumulator.empty (fun a r => a.accept (value r)) rs a) :
    Collected Stats.zero (fun s r => s.addValue (value r)) rs a.plain := by
  induction h with
  | zero => exact .zero
  | add r _ ih => exact ih.add r
  | merge _ _ iha ihb => exact iha.merge ihb

lemma Collected.summarizes_accumulator {a : Accumulator V}
    (h : Collected Accumulator.empty (fun a r => a.accept (value r)) rs a) :
    Summarizes (rs.map value) a.count a.min a.max := h.plain.summarizes_stats

end

namespace Engine

variable {V : Type} [Number V]

/-! ### Tallies -/

/-- The keys are those of the positions, and each key has the count and the extremes of the values
of its positions. -/
structure Tallies (grouping : Grouping) (positions : List (Position V))
    (result : GroupMap (GroupKey V) (Stats V)) : Prop where
  contains_iff : ∀ k, result.contains k = true ↔ ∃ p ∈ positions, (grouping.key p == k) = true
  summarizes : ∀ k s, result.get? k = some s →
    Summarizes ((positions.filter (grouping.key · == k)).map Position.marketValue : List V)
      s.count s.min s.max

namespace Tallies

variable {grouping : Grouping} {positions : List (Position V)}
  {result result' : GroupMap (GroupKey V) (Stats V)}

lemma of_gathers (h : result.Gathers grouping.key
    (fun ps s => Summarizes (ps.map Position.marketValue) s.count s.min s.max) positions) :
    Tallies grouping positions result := by
  refine ⟨h.contains_iff, fun k s hs => ?_⟩
  have hsum := h.holds_of_get? hs
  rwa [ofKey_coe, Multiset.map_coe] at hsum

lemma of_makes [OrderedNumber V] {kind : RunKind} {parts : List (List (Position V))}
    (h : Makes kind parts result) : Tallies kind.grouping parts.flatten result :=
  .of_gathers (h.gathers (fun _ _ hs => hs.summarizes_stats)
    fun _ _ ha => ha.summarizes_accumulator)

lemma count_eq (h : Tallies grouping positions result) (hwords : positions.length < wordBound)
    {k : GroupKey V} {s : Stats V} (hs : result.get? k = some s) :
    s.count.toNat = positions.countP (grouping.key · == k) := by
  have hcard : (Multiset.card (((positions.filter (grouping.key · == k)).map
      Position.marketValue : List V) : Multiset V)) = positions.countP (grouping.key · == k) := by
    rw [Multiset.coe_card, List.length_map, List.countP_eq_length_filter]
  have hfew := lt_of_le_of_lt (List.countP_le_length (p := (grouping.key · == k))) hwords
  rw [(h.summarizes k s hs).toNat_count (hcard ▸ hfew), hcard]

/-- The counts add up to the number of positions: each of them is counted under one key. -/
lemma sum_count (h : Tallies grouping positions result) (hwords : positions.length < wordBound) :
    (result.entries.map fun e => e.2.count.toNat).sum = positions.length := by
  have hcount : ∀ e ∈ result.entries,
      e.2.count.toNat = positions.countP (e.1 == grouping.key ·) := by
    intro e he
    have hget : result.get? e.1 = some e.2 := by
      rw [GroupMap.get?_eq, GroupMap.mem_entries_iff.1 he, Option.map_some]
    rw [h.count_eq hwords hget]
    exact List.countP_congr fun p _ => by rw [BEq.comm]
  rw [List.map_congr_left hcount]
  exact GroupMap.sum_countP fun p hp => (h.contains_iff _).2 ⟨p, hp, BEq.rfl⟩

end Tallies

/-! ### Runs -/

lemma Sized.lt_wordBound {e : Engine V} {records : ℕ} (h : e.Sized records) :
    records < wordBound := lt_of_le_of_lt h.records_le (by decide)

variable [OrderedNumber V] [Json.ToValue V]

lemma tallies_of_run {e : Engine V} {reading : Reading V} {kind : RunKind}
    {positions : List (Position V)} {o : RunOutcome V} (hsized : e.Sized positions.length)
    (h : e.run reading kind positions = .ok o) : Tallies kind.grouping positions o.result := by
  obtain ⟨parts, hparts, hmakes⟩ := result_eq_ok (result_of_run h)
  rw [← flatten_parts hsized hparts]
  exact .of_makes hmakes

/-- Two runs over the same positions, however they are executed, have results with the same keys,
counts and extremes, whatever the sums are. With room for its batches and shards, a run has a
result. -/
theorem runs_tally (e e' : Engine V) (reading reading' : Reading V) (grouping : Grouping)
    (mode mode' : Mode) (style style' : Style) (positions : List (Position V))
    (hsized : e.Sized positions.length) (hsized' : e'.Sized positions.length) :
    (e.HasRoom ⟨mode, style, grouping⟩ →
      ∃ o, e.run reading ⟨mode, style, grouping⟩ positions = .ok o) ∧
    ∀ o o' : RunOutcome V,
      e.run reading ⟨mode, style, grouping⟩ positions = .ok o →
      e'.run reading' ⟨mode', style', grouping⟩ positions = .ok o' →
      Tallies grouping positions o.result ∧ Tallies grouping positions o'.result ∧
      (∀ k, o.result.contains k = o'.result.contains k) ∧
      (∀ k s s', o.result.get? k = some s → o'.result.get? k = some s' →
        s.count = s'.count ∧ s.count.toNat = positions.countP (grouping.key · == k) ∧
        Number.equal s.min s'.min = true ∧ Number.equal s.max s'.max = true) ∧
      (o.result.entries.map fun e => e.2.count.toNat).sum = positions.length := by
  refine ⟨fun hroom => exists_run_of_hasRoom hsized hroom reading, fun o o' ho ho' => ?_⟩
  have h : Tallies grouping positions o.result := tallies_of_run hsized ho
  have h' : Tallies grouping positions o'.result := tallies_of_run hsized' ho'
  have hwords := hsized.lt_wordBound
  refine ⟨h, h', fun k => ?_, fun k s s' hs hs' => ?_, h.sum_count hwords⟩
  · rw [Bool.eq_iff_iff, h.contains_iff, h'.contains_iff]
  · have hsum := h.summarizes k s hs
    have hsum' := h'.summarizes k s' hs'
    refine ⟨by rw [hsum.count_eq, hsum'.count_eq], h.count_eq hwords hs, ?_, ?_⟩
    · exact hsum.low_least.equal hsum'.low_least
    · exact hsum.high_greatest.equal hsum'.high_greatest

/-- An engine with the default configuration and four workers. -/
def standard : Engine Float := ⟨Config.default, ⟨4, by decide⟩, .stops, by decide⟩

/-- A reading of workers that take their turns one after the other. -/
def quietReading : Reading V := ⟨.zero, 0, 0, .inOrder default⟩

/-- Values that are not a number, infinite and of both signs of zero, in one account and another. -/
theorem runs_tally_standard :
    let held (account : String) (price : Float) : Position Float :=
      ⟨⟨account⟩, ⟨"bond", "debt", price⟩, 1⟩
    let positions := [held "x" (0.0 / 0.0), held "y" (1.0 / 0.0), held "x" 0.0, held "x" (-0.0)]
    standard.Sized positions.length ∧
    ∃ o o' : RunOutcome Float,
      standard.run quietReading ⟨.serialEager, .immutable, .account⟩ positions = .ok o ∧
      standard.run quietReading ⟨.parallelLazy, .inPlace, .account⟩ positions = .ok o' ∧
      (∀ s s', o.result.get? (.account ⟨"x"⟩) = some s → o'.result.get? (.account ⟨"x"⟩) = some s' →
        s.count = 3 ∧ s'.count = 3 ∧ Number.equal s.min s'.min = true) ∧
      (o.result.entries.map fun e => e.2.count.toNat).sum = 4 := by
  intro held positions
  have hsized : standard.Sized positions.length := .of_batchSize rfl (by decide) (by decide)
  have hroom : ∀ kind, standard.HasRoom kind := .of_batchSize rfl (by decide)
  refine ⟨hsized, ?_⟩
  obtain ⟨hrun, htally⟩ := runs_tally standard standard quietReading quietReading .account
    .serialEager .parallelLazy .immutable .inPlace positions hsized hsized
  obtain ⟨hrun', -⟩ := runs_tally standard standard quietReading quietReading .account
    .parallelLazy .serialEager .inPlace .immutable positions hsized hsized
  obtain ⟨o, ho⟩ := hrun (hroom _)
  obtain ⟨o', ho'⟩ := hrun' (hroom _)
  obtain ⟨-, -, -, hvalues, hsum⟩ := htally o o' ho ho'
  refine ⟨o, o', ho, ho', fun s s' hs hs' => ?_, hsum⟩
  obtain ⟨hcount, hthree, hmin, -⟩ := hvalues _ s s' hs hs'
  have hs3 : s.count = 3 := UInt64.toNat_inj.1 hthree
  exact ⟨hs3, hcount ▸ hs3, hmin⟩

end Engine

end Groupwise
