import Groupwise.Proofs.Exact
import Groupwise.Proofs.Tallying
import Groupwise.Proofs.Tolerating
import Groupwise.Proofs.Verifying

/-!
# Comparing modes of exact runs

If sums are exact, then the result of a run is determined by its positions (`SumsUp.unique`): the
order of the additions does not matter, and both kinds of summaries come to the same. The check of a
result against the baseline lets equal results pass, so a comparison of modes finds no difference,
whichever modes it is asked for. What can stop it is a trap in one of its runs
(`Engine.compareModes_lacks_room`).
-/

namespace Groupwise

/-! ### Exact summaries -/

/-- The count, the extremes and the exact sum of the values `vs`. -/
structure SumsUp (vs : Multiset Exact) (s : Stats Exact) : Prop where
  summarizes : Summarizes vs s.count s.min s.max
  sum_eq : s.sum = vs.sum

lemma SumsUp.unique {vs : Multiset Exact} {s t : Stats Exact} (hs : SumsUp vs s)
    (ht : SumsUp vs t) : s = t := by
  obtain ⟨⟨hcount, hmin, hmax⟩, hsum⟩ := hs
  obtain ⟨⟨hcount', hmin', hmax'⟩, hsum'⟩ := ht
  obtain ⟨count, sum, min, max⟩ := s
  obtain ⟨count', sum', min', max'⟩ := t
  obtain rfl : count = count' := hcount.trans hcount'.symm
  obtain rfl : sum = sum' := hsum.trans hsum'.symm
  obtain rfl : min = min' := Exact.eq_of_equal (hmin.equal hmin')
  obtain rfl : max = max' := Exact.eq_of_equal (hmax.equal hmax')
  rfl

namespace Collected

variable {R : Type} {value : R → Exact} {rs : Multiset R}

lemma sumsUp_stats {s : Stats Exact}
    (h : Collected Stats.zero (fun s r => s.addValue (value r)) rs s) :
    SumsUp (rs.map value) s := by
  refine ⟨h.summarizes_stats, ?_⟩
  induction h with
  | zero => rfl
  | add r _ ih =>
    rw [Multiset.map_cons, Multiset.sum_cons, add_comm, ← ih]
    rfl
  | merge _ _ iha ihb =>
    rw [Multiset.map_add, Multiset.sum_add, ← iha, ← ihb]
    rfl

lemma tracks {a : Accumulator Exact}
    (h : Collected Accumulator.empty (fun a r => a.accept (value r)) rs a) :
    Exact.Tracks (rs.map value).sum a.compensated := by
  induction h with
  | zero => exact .exactly 0
  | add r _ ih =>
    rw [Multiset.map_cons, Multiset.sum_cons, add_comm]
    exact ih.addValue (value r)
  | merge _ _ iha ihb =>
    rw [Multiset.map_add, Multiset.sum_add]
    exact iha.combine ihb

lemma sumsUp_snapshot {a : Accumulator Exact}
    (h : Collected Accumulator.empty (fun a r => a.accept (value r)) rs a) :
    SumsUp (rs.map value) a.snapshot :=
  ⟨h.summarizes_accumulator, Exact.sum_eq h.tracks h.plain.sumsUp_stats.sum_eq⟩

end Collected

/-! ### The check of a result -/

lemma verifyMapsEqual_ok {V K A : Type} [BEq K] [EquivBEq K] [ApproxEq V A] {g h : GroupMap K A}
    (hgh : ∀ k, h.get? k = g.get? k) {tolerance : V}
    (happrox : ∀ a : A, ApproxEq.approxEq a a tolerance = true) :
    verifyMapsEqual g h tolerance = .ok () := by
  refine (verdict_verifyMapsEqual g h tolerance).eq_ok_iff.2 ⟨fun k => ?_, ?_⟩
  · rw [GroupMap.contains_eq_isSome_get?, GroupMap.contains_eq_isSome_get?, hgh]
  · intro k want got hwant hgot
    obtain rfl : want = got := Option.some.inj (hwant.symm.trans ((hgh k).symm.trans hgot))
    exact happrox want

namespace Engine

lemma tolerance_nonneg (e : Engine Exact) :
    Number.le Number.zero e.config.sumTolerance = true :=
  Admissible.zero_le ⟨e.config, e.valid, rfl⟩

/-! ### Comparisons -/

variable {grouping : Grouping} {style : Style} {positions : List (Position Exact)}

/-- The outcome of a run in the given mode, with the exact summaries of the positions. -/
structure HasSums (grouping : Grouping) (style : Style) (positions : List (Position Exact))
    (mode : Mode) (o : RunOutcome Exact) : Prop where
  kind_eq : o.manifest.kind = ⟨mode, style, grouping⟩
  sums : o.result.Gathers grouping.key (fun ps s => SumsUp (ps.map Position.marketValue) s)
    positions

lemma HasSums.get?_eq {mode mode' : Mode} {o o' : RunOutcome Exact}
    (h : HasSums grouping style positions mode o) (h' : HasSums grouping style positions mode' o')
    (k : GroupKey Exact) : o.result.get? k = o'.result.get? k :=
  GroupMap.Gathers.get?_unique (fun _ _ _ hs ht => hs.unique ht) h.sums h'.sums k

variable [Json.ToValue Exact] {e : Engine Exact}

/-- The baseline has no batches and shares no map: nothing stops it. -/
lemma exists_baseline (e : Engine Exact) (reading : Reading Exact) (grouping : Grouping)
    (style : Style) (positions : List (Position Exact)) :
    ∃ baseline, e.run reading ⟨.serialEager, style, grouping⟩ positions = .ok baseline :=
  exists_run (parts_serial rfl)

lemma hasSums_of_run {reading : Reading Exact} {mode : Mode} {o : RunOutcome Exact}
    (hsized : e.Sized positions.length)
    (h : e.run reading ⟨mode, style, grouping⟩ positions = .ok o) :
    HasSums grouping style positions mode o := by
  obtain ⟨m, digest, hm, hresult, -, hmanifest⟩ := run_eq_ok h
  obtain ⟨parts, hparts, hmakes⟩ := result_eq_ok hresult
  refine ⟨?_, ?_⟩
  · rw [hmanifest]
    exact (manifest_eq_ok hm).1
  · have hsums := hmakes.gathers (fun _ _ hs => hs.sumsUp_stats) fun _ _ ha => ha.sumsUp_snapshot
    rwa [flatten_parts hsized hparts] at hsums

/-- Every outcome that is reported on has the sums of its mode. -/
lemma hasSums_of_isReported {readings : ℕ → Reading Exact} {baseline o : RunOutcome Exact}
    {mode : Mode} (hsized : e.Sized positions.length)
    (hbaseline : HasSums grouping style positions .serialEager baseline)
    (h : IsReported baseline
      (fun n mode => e.run (readings n) ⟨mode, style, grouping⟩ positions) mode o) :
    HasSums grouping style positions mode o := by
  obtain ⟨rfl, rfl⟩ | ⟨n, hrun⟩ := h
  · exact hbaseline
  · exact hasSums_of_run hsized hrun

/-- A comparison that fails fails because one of its runs does: no result is told apart from the
baseline. -/
lemma run_of_compareModes_error {readings : ℕ → Reading Exact} {modes : List Mode}
    {cause : EngineError Exact} (hsized : e.Sized positions.length)
    (h : e.compareModes readings grouping style modes positions = .error cause) :
    ∃ mode ∈ modes, ∃ n, e.run (readings n) ⟨mode, style, grouping⟩ positions = .error cause := by
  obtain ⟨baseline, hbaseline⟩ := e.exists_baseline (readings 0) grouping style positions
  have hsums := hasSums_of_run hsized hbaseline
  rw [compareModes_eq hbaseline] at h
  obtain ⟨mode, hmode, hrun | ⟨o, ho, hreport⟩⟩ := reports_eq_error h
  · exact ⟨mode, hmode, hrun⟩
  · have hverify : verifyMapsEqual baseline.result o.result e.config.sumTolerance = .ok () :=
      verifyMapsEqual_ok ((hasSums_of_isReported hsized hsums ho).get?_eq hsums)
        (Stats.approxEq_self e.tolerance_nonneg)
    rw [report, hverify] at hreport
    cases hreport

/-- A comparison of exact runs finds no difference: if it is not stopped by a trap, it has one
report for each mode that it was asked for, in their order, and every result has the keys and the
summaries of the baseline. It is not stopped if there is room for the shards and batches of all its
modes. -/
theorem compareModes_agree (e : Engine Exact) (readings : ℕ → Reading Exact) (grouping : Grouping)
    (style : Style) (modes : List Mode) (positions : List (Position Exact))
    (hsized : e.Sized positions.length) :
    ∃ baseline : RunOutcome Exact,
      e.run (readings 0) ⟨.serialEager, style, grouping⟩ positions = .ok baseline ∧
      (∀ rs, e.compareModes readings grouping style modes positions = .ok rs →
        List.Forall₂ (fun mode r => r.outcome.manifest.kind = ⟨mode, style, grouping⟩ ∧
          ∀ k, r.outcome.result.contains k = baseline.result.contains k ∧
            r.outcome.result.get? k = baseline.result.get? k) modes rs) ∧
      (∀ cause, e.compareModes readings grouping style modes positions = .error cause →
        ∃ t, cause = stopped t) ∧
      ((∀ mode ∈ modes, e.HasRoom ⟨mode, style, grouping⟩) →
        ∃ rs, e.compareModes readings grouping style modes positions = .ok rs) := by
  obtain ⟨baseline, hbaseline⟩ := e.exists_baseline (readings 0) grouping style positions
  have hsums := hasSums_of_run hsized hbaseline
  refine ⟨baseline, hbaseline, fun rs h => ?_, fun cause h => ?_, fun hroom => ?_⟩
  · rw [compareModes_eq hbaseline] at h
    refine (reports_eq_ok h).imp fun mode r hr => ?_
    have hmode := hasSums_of_isReported hsized hsums hr.1
    refine ⟨hmode.kind_eq, fun k => ?_⟩
    rw [GroupMap.contains_eq_isSome_get?, GroupMap.contains_eq_isSome_get?, hmode.get?_eq hsums]
    exact ⟨rfl, rfl⟩
  · obtain ⟨_, -, _, hrun⟩ := run_of_compareModes_error hsized h
    exact stopped_of_run hrun
  · cases h : e.compareModes readings grouping style modes positions with
    | ok rs => exact ⟨rs, rfl⟩
    | error cause =>
      obtain ⟨mode, hmode, n, hrun⟩ := run_of_compareModes_error hsized h
      obtain ⟨o, ho⟩ := exists_run_of_hasRoom hsized (hroom mode hmode) (readings n)
      cases ho.symm.trans hrun

/-- One worker, batches of one position and the given number of shards. -/
def shardedConfig (lockShards : ℕ) : Config Exact where
  batchSize := some 1
  parallelism := some 1
  shutdownTimeoutMs := 1000
  sumTolerance := .finite 0
  datasetSize := 0
  seed := none
  lockShards := lockShards

/-- Holdings of one account, one of each price. -/
def held (prices : List Exact) : List (Position Exact) :=
  prices.map fun price => ⟨⟨"x"⟩, ⟨"bond", "debt", price⟩, 1⟩

omit [Json.ToValue Exact] in
/-- A share that is worth nothing and infinite ones, in a map that has one shard. -/
theorem compareModes_agree_infinite :
    let positions := held [.finite 0, .posInf, .negInf]
    let modes : List Mode := [.parallelEager, .serialLazy, .parallelEager]
    ∃ e : Engine Exact, new .wraps ⟨8, by decide⟩ (shardedConfig 1) = .ok e ∧
      e.Sized positions.length ∧ (∀ mode, e.HasRoom ⟨mode, .inPlace, .account⟩) ∧
      ∀ [Json.ToValue Exact], ∃ rs,
        e.compareModes (fun _ => quietReading) .account .inPlace modes positions = .ok rs ∧
        rs.length = 3 := by
  intro positions modes
  let e : Engine Exact := ⟨shardedConfig 1, ⟨1, by decide⟩, .wraps, by rfl⟩
  have hnew : new .wraps ⟨8, by decide⟩ (shardedConfig 1) = .ok e := by rfl
  have hsized : e.Sized positions.length := .of_batchSize rfl (by decide) (by decide)
  have hroom : ∀ mode, e.HasRoom ⟨mode, .inPlace, .account⟩ := fun mode =>
    .of_batchSize rfl SharedMap.one_le_shardCapacity _
  refine ⟨e, hnew, hsized, hroom, ?_⟩
  intro _
  obtain ⟨baseline, -, hagree, -, hexists⟩ := compareModes_agree e (fun _ => quietReading) .account
    .inPlace modes positions hsized
  obtain ⟨rs, hrs⟩ := hexists fun mode _ => hroom mode
  exact ⟨rs, hrs, (hagree rs hrs).length_eq.symm⟩

omit [Json.ToValue Exact] in
/-- A valid configuration has more shards than fit in any memory, and the run that shares a map is
stopped. -/
theorem compareModes_lacks_room :
    ∃ e : Engine Exact,
      new .wraps ⟨8, by decide⟩ (shardedConfig 0xffffffffffffffff) = .ok e ∧
      ∀ [Json.ToValue Exact],
        e.compareModes (fun _ => quietReading) .account .inPlace [.parallelEager]
          (held [.finite 1]) = .error (.aborted (.trap .capacity)) := by
  let e : Engine Exact := ⟨shardedConfig 0xffffffffffffffff, ⟨1, by decide⟩, .wraps, by rfl⟩
  have hnew : new .wraps ⟨8, by decide⟩ (shardedConfig 0xffffffffffffffff) = .ok e := by rfl
  refine ⟨e, hnew, ?_⟩
  intro _
  obtain ⟨baseline, hbaseline⟩ :=
    e.exists_baseline quietReading .account .inPlace (held [.finite 1])
  have hsized : e.Sized (held [.finite 1]).length := .of_batchSize rfl (by decide) (by decide)
  have hsize : e.batchSizeFor (held [.finite 1]).length = .ok ⟨1, by decide⟩ := rfl
  have hparts : e.parts quietReading.schedule ⟨.parallelEager, .inPlace, .account⟩
      (held [.finite 1]) = .error (stopped .capacity) :=
    parts_of_lt_lockShards hsized hsize rfl rfl (by decide)
  rw [compareModes_eq hbaseline, reports_eq_bind, if_neg (by decide), run_of_error hparts]
  rfl

end Engine

end Groupwise
