import Groupwise.Proofs.Planning

/-!
# Plans that overflow

Of the sums in a plan only the last one can be too large for a word: every other batch ends where
the next one starts, inside the input (`batchReach_lt_of_lt`). So a plan overflows if and only if
its batches, all of them full, reach over the end of the words (`forall_batchReach_lt_iff`), and
then it is the last batch that is lost (`planBatches_wraps`). How many batches the workers should
get is no word for `2 ^ 62` workers and more.

Inputs in memory are far from both, but a plan is made for any number of records.
-/

namespace Groupwise

variable {o : Overflow} {records workers : ℕ} {size : BatchSize}

/-! ### Words -/

namespace Overflow

variable {trap : Trap} {n : ℕ}

lemma word_stops (h : wordBound ≤ n) : stops.word trap n = .error trap := if_neg (by omega)

lemma word_wraps (h : wordBound ≤ n) : wraps.word trap n = .ok (n % wordBound) := if_neg (by omega)

end Overflow

/-! ### Plans -/

/-- Where full batches do not fit, there is a last one that does not. -/
lemma exists_last_of_not_fits (h : ¬ Fits records size) :
    ∃ c, ceilDiv records size.val = c + 1 ∧ wordBound ≤ c * size.val + size.val := by
  rw [Fits, not_lt] at h
  cases hcount : ceilDiv records size.val with
  | zero =>
    rw [hcount, Nat.zero_mul] at h
    cases h
  | succ c =>
    rw [hcount, Nat.succ_mul] at h
    exact ⟨c, rfl, h⟩

/-- A batch that another one follows ends inside the input. -/
lemma batchReach_lt_of_lt {i c : ℕ} (hi : i < c) (hc : c < ceilDiv records size.val) :
    batchReach size (i * size.val) < records := by
  have hnext : (i + 1) * size.val < records := mul_lt_of_lt_ceilDiv (by omega)
  rwa [Nat.succ_mul] at hnext

lemma evenBatches_succ {c : ℕ} (hcount : ceilDiv records size.val = c + 1) :
    evenBatches records size =
      (List.range c).map (planned records size) ++ [planned records size c] := by
  rw [evenBatches, hcount, List.range_succ, List.map_append]
  rfl

/-- A plan with words is a plan with numbers but for its last batch. -/
lemma planBatches_succ {c : ℕ} (hrecords : records < wordBound)
    (hcount : ceilDiv records size.val = c + 1) (hcapacity : c < batchCapacity) :
    planBatches o records size = do
      let last ← batchOn o records size c (c * size.val)
      return ⟨records, size.val, (evenBatches records size).dropLast ++ [last]⟩ := by
  have hinit : (List.range c).mapM (fun i => batchOn o records size i (i * size.val)) =
      .ok ((List.range c).map (planned records size)) := by
    refine mapM_eq_ok fun i hi => batchOn_of_lt ?_
    exact (batchReach_lt_of_lt (List.mem_range.1 hi) (by omega)).trans hrecords
  rw [planBatches_eq (by omega), evenBatches_succ hcount, List.dropLast_concat, hcount,
    List.range_succ, List.mapM_append]
  simp only [hinit, List.mapM_cons, List.mapM_nil, bind_assoc, pure_bind]
  rfl

/-- A checked program stops at the last batch if that reaches over the end of the words. -/
lemma planBatches_stops (hrecords : records < wordBound)
    (hcapacity : ceilDiv records size.val ≤ batchCapacity) (hover : ¬ Fits records size) :
    planBatches .stops records size = .error .addition := by
  obtain ⟨c, hcount, hlast⟩ := exists_last_of_not_fits hover
  have hadd : Overflow.stops.add (c * size.val) size.val = .error .addition :=
    Overflow.word_stops hlast
  rw [planBatches_succ hrecords hcount (by omega), batchOn, hadd]
  rfl

/-- Where the last sum of a plan wraps around, the plan goes on as if nothing had happened, but its
last batch stops before it starts: the records from there on are in no batch. -/
theorem planBatches_wraps (hrecords : records < wordBound) (hsize : size.val < wordBound)
    (hcapacity : ceilDiv records size.val ≤ batchCapacity) (hover : ¬ Fits records size) :
    ∃ last, planBatches .wraps records size =
        .ok ⟨records, size.val, (evenBatches records size).dropLast ++ [last]⟩ ∧
      last.stop < last.start ∧ last.start < records ∧
      ∀ b ∈ (evenBatches records size).dropLast, b.stop ≤ last.start := by
  obtain ⟨c, hcount, hlast⟩ := exists_last_of_not_fits hover
  have hstart : c * size.val < records := mul_lt_of_lt_ceilDiv (by omega)
  have hlost : c * size.val + size.val - wordBound < c * size.val := by omega
  have hadd : Overflow.wraps.add (c * size.val) size.val =
      .ok (c * size.val + size.val - wordBound) := by
    rw [Overflow.add, Overflow.word_wraps hlast, Nat.mod_eq_sub_mod hlast,
      Nat.mod_eq_of_lt (by omega)]
  rw [planBatches_succ hrecords hcount (by omega), batchOn, hadd]
  refine ⟨_, rfl, lt_of_le_of_lt (Nat.min_le_left _ _) hlost, hstart, fun b hb => ?_⟩
  rw [evenBatches_succ hcount, List.dropLast_concat] at hb
  obtain ⟨i, hi, rfl⟩ := List.mem_map.1 hb
  have hle : (i + 1) * size.val ≤ c * size.val := Nat.mul_le_mul_right _ (List.mem_range.1 hi)
  rw [Nat.succ_mul] at hle
  exact (Nat.min_le_left _ _).trans hle

lemma planBatches_eq_ok_iff (hrecords : records < wordBound) (hsize : size.val < wordBound) :
    planBatches o records size = .ok ⟨records, size.val, evenBatches records size⟩ ↔
      ceilDiv records size.val ≤ batchCapacity ∧ Fits records size := by
  refine ⟨fun h => ?_, fun h => planBatches_of_plannable h⟩
  have hcapacity : ceilDiv records size.val ≤ batchCapacity := by
    by_contra hover
    rw [planBatches, if_pos (by omega)] at h
    cases h
  refine ⟨hcapacity, ?_⟩
  by_contra hover
  cases o with
  | stops =>
    rw [planBatches_stops hrecords hcapacity hover] at h
    cases h
  | wraps =>
    obtain ⟨last, hplan, hstop, hstart, -⟩ := planBatches_wraps hrecords hsize hcapacity hover
    have hbatches : (evenBatches records size).dropLast ++ [last] = evenBatches records size :=
      congrArg BatchPlan.batches (Except.ok.inj (hplan.symm.trans h))
    -- the last batch of a plan with numbers stops at the end of the input
    have hlast : last.stop = records := by
      refine (stepped_evenBatches records size).stop_eq last ?_
      rw [← hbatches, List.getLast?_concat]
      rfl
    omega

/-! ### Derived sizes -/

lemma targetBatches_lt_iff : targetBatches workers < wordBound ↔ workers < 2 ^ 62 := by
  rw [targetBatches, batchesPerWorker, wordBound]
  omega

lemma chooseBatchSize_stops (h : 2 ^ 62 ≤ workers) :
    chooseBatchSize .stops records workers = .error .multiplication := by
  have htarget : Overflow.stops.mul (max workers 1) batchesPerWorker = .error .multiplication :=
    Overflow.word_stops (not_lt.1 (mt targetBatches_lt_iff.1 (not_lt.2 h)))
  rw [chooseBatchSize, htarget]
  rfl

/-! ### Planning on machines -/

/-- When planning stays inside the words. Its sums do if full batches fit, as they do for at most
`2 ^ 63` records; its product does for less than `2 ^ 62` workers. The plan that comes out is the
right one if and only if there is room for it and its sums do not overflow, and the derived size is
the right one if the product does not overflow; else a checked program stops. -/
theorem planning_fits_iff (records : ℕ) (size : BatchSize) (workers : ℕ)
    (hrecords : records < wordBound) (hsize : size.val < wordBound) :
    ((∀ start ∈ batchStarts records size, batchReach size start < wordBound) ↔
      Fits records size) ∧
    (records ≤ 2 ^ 63 → Fits records size) ∧
    (targetBatches workers < wordBound ↔ workers < 2 ^ 62) ∧
    (∀ o, planBatches o records size = .ok ⟨records, size.val, evenBatches records size⟩ ↔
      ceilDiv records size.val ≤ batchCapacity ∧ Fits records size) ∧
    (∀ o, workers < 2 ^ 62 →
      chooseBatchSize o records workers = .ok (evenSize records workers)) ∧
    planBatches .stops records size =
      (if batchCapacity < ceilDiv records size.val then .error .capacity
        else if Fits records size then .ok ⟨records, size.val, evenBatches records size⟩
        else .error .addition) ∧
    chooseBatchSize .stops records workers =
      if workers < 2 ^ 62 then .ok (evenSize records workers) else .error .multiplication := by
  have hchoose : ∀ o, workers < 2 ^ 62 →
      chooseBatchSize o records workers = .ok (evenSize records workers) :=
    fun o hfew => chooseBatchSize_of_lt (targetBatches_lt_iff.2 hfew)
  refine ⟨forall_batchReach_lt_iff, fun hhalf => fits_of_le hhalf hsize, targetBatches_lt_iff,
    fun o => planBatches_eq_ok_iff hrecords hsize, hchoose, ?_, ?_⟩
  · split_ifs with hroom hfits
    · exact if_pos hroom
    · exact planBatches_of_plannable ⟨not_lt.1 hroom, hfits⟩
    · exact planBatches_stops hrecords (not_lt.1 hroom) hfits
  · split_ifs with hfew
    · exact hchoose .stops hfew
    · exact chooseBatchSize_stops (not_lt.1 hfew)

/-- The largest input in the largest batch, for the most workers whose batches can be counted. -/
theorem planning_fits_iff_largest :
    let records := 18446744073709551615
    let size : BatchSize := ⟨records, by decide⟩
    let workers := 4611686018427387903
    records < wordBound ∧ size.val < wordBound ∧ workers < 2 ^ 62 ∧
      (∀ start ∈ batchStarts records size, batchReach size start < wordBound) ∧
      (∀ o, planBatches o records size = .ok ⟨records, size.val, evenBatches records size⟩) ∧
      ∀ o, chooseBatchSize o records workers = .ok (evenSize records workers) := by
  intro records size workers
  obtain ⟨hsums, -, -, hplan, hchoose, -⟩ :=
    planning_fits_iff records size workers (by decide) (by decide)
  exact ⟨by decide, by decide, by decide, hsums.2 (by decide),
    fun o => (hplan o).2 ⟨by decide, by decide⟩, fun o => hchoose o (by decide)⟩

/-- As many records as there can be, in batches that are one record shorter: the second batch starts
at the last record, and where it would end is no word. A checked program stops there, another one
makes a batch that stops before it starts. Four batches for each of `2 ^ 62` workers are no word
either. Batches of two records reach over the end of the words as well, but there are too many of
them for any memory. -/
theorem planning_overflows :
    let records := 18446744073709551615
    let size : BatchSize := ⟨18446744073709551614, by decide⟩
    let workers := 4611686018427387904
    (records < wordBound ∧ size.val < wordBound ∧ workers < wordBound) ∧
      (∃ start ∈ batchStarts records size, start < records ∧ wordBound ≤ batchReach size start) ∧
      planBatches .stops records size = .error .addition ∧
      planBatches .wraps records size = .ok ⟨records, size.val,
        [⟨⟨0⟩, 0, 18446744073709551614⟩, ⟨⟨1⟩, 18446744073709551614, 18446744073709551612⟩]⟩ ∧
      wordBound ≤ targetBatches workers ∧
      chooseBatchSize .stops records workers = .error .multiplication ∧
      chooseBatchSize .wraps records workers = .error .divisionByZero ∧
      (∃ start ∈ batchStarts records ⟨2, by decide⟩,
        start < records ∧ wordBound ≤ batchReach ⟨2, by decide⟩ start) ∧
      ∀ o, planBatches o records ⟨2, by decide⟩ = .error .capacity := by
  intro records size workers
  have hrecords : records < wordBound := by decide
  have hstop : planBatches .stops records size = .error .addition :=
    planBatches_stops hrecords (by decide) (by decide)
  have hplan : planBatches .wraps records size = .ok ⟨records, size.val,
      [⟨⟨0⟩, 0, 18446744073709551614⟩, ⟨⟨1⟩, 18446744073709551614, 18446744073709551612⟩]⟩ := by
    decide
  have hsecond : 18446744073709551614 ∈ batchStarts records size :=
    List.mem_map.2 ⟨1, List.mem_range.2 (by decide), by decide⟩
  have hpair : 18446744073709551614 ∈ batchStarts records ⟨2, by decide⟩ :=
    List.mem_map.2 ⟨9223372036854775807, List.mem_range.2 (by decide), by decide⟩
  exact ⟨⟨hrecords, by decide, by decide⟩, ⟨_, hsecond, by decide, by decide⟩, hstop, hplan,
    by decide, chooseBatchSize_stops (by decide), by decide, ⟨_, hpair, by decide, by decide⟩,
    fun o => if_pos (by decide)⟩

end Groupwise
