import Groupwise.Proofs.Batches

/-!
# Plans cut an input without gaps

A plan goes through its input in steps of one size (`Stepped`). By induction over the steps, its
batches lie end to end from the first record to the last one, all of them full but the last
(`planBatches_partitions`).

A plan has at most `k` batches if and only if `k` batches of its size hold the input. So the derived
size, which is a quotient rounded up, is the least one that keeps the number of batches at its
target, and a size that is least cannot fall short of half the target
(`chooseBatchSize_spreads`).

There is a plan as long as there is room for its batches, which is no condition on inputs that are
in memory themselves.
-/

namespace Groupwise

variable {o : Overflow} {records start stop number workers : ℕ} {size : BatchSize} {bs : List Batch}

/-! ### Steps through an input -/

/-- The batches that are made in steps from `start` on, until a step is not before `stop`. They are
numbered from `number`. -/
inductive Stepped (size : BatchSize) (stop : ℕ) : ℕ → ℕ → List Batch → Prop
  | done {number start : ℕ} (h : stop ≤ start) : Stepped size stop number start []
  | next {number start : ℕ} {bs : List Batch} (h : start < stop)
      (rest : Stepped size stop (number + 1) (start + size.val) bs) :
      Stepped size stop number start (⟨⟨number⟩, start, min (batchReach size start) stop⟩ :: bs)

theorem stepped_evenBatches (records : ℕ) (size : BatchSize) :
    Stepped size records 0 0 (evenBatches records size) := by
  -- `k` batches are left
  have hgo : ∀ k i, i + k = ceilDiv records size.val →
      Stepped size records i (i * size.val) ((List.range' i k).map (planned records size)) := by
    intro k
    induction k with
    | zero =>
      rintro i rfl
      exact .done (le_ceilDiv_mul records size)
    | succ k ih =>
      intro i hi
      rw [List.range'_succ, List.map_cons]
      refine .next (mul_lt_of_lt_ceilDiv (by omega)) ?_
      rw [← Nat.succ_mul]
      exact ih (i + 1) (by omega)
  rw [evenBatches, List.range_eq_range']
  simpa using hgo _ 0 (Nat.zero_add _)

namespace Stepped

lemma map_id (h : Stepped size stop number start bs) :
    bs.map (·.id) = (List.range' number bs.length).map BatchId.mk := by
  induction h with
  | done => rfl
  | next h rest ih => rw [List.map_cons, ih, List.length_cons, List.range'_succ, List.map_cons]

lemma start_eq (h : Stepped size stop number start bs) : ∀ b ∈ bs.head?, b.start = start := by
  cases h with
  | done => simp
  | next h rest => simp

/-- A batch behind another one begins where a full step from there ends. -/
lemma isChain (h : Stepped size stop number start bs) : bs.IsChain fun a b => b.start = a.stop := by
  induction h with
  | done => exact .nil
  | next h rest ih =>
    cases rest with
    | done => exact .singleton _
    | next hnext rest => exact .cons_cons (by simp [batchReach, hnext.le]) ih

/-- Where there is no step left, the last batch was cut off at the end. -/
lemma stop_eq (h : Stepped size stop number start bs) : ∀ b ∈ bs.getLast?, b.stop = stop := by
  induction h with
  | done => simp
  | next h rest ih =>
    cases rest with
    | done hdone => simpa [batchReach] using hdone
    | next hnext rest => rwa [List.getLast?_cons_cons]

lemma bounds (h : Stepped size stop number start bs) :
    ∀ b ∈ bs, b.start < b.stop ∧ b.stop ≤ stop ∧ b.size ≤ size.val := by
  have hpos := size.pos
  induction h with
  | done => simp
  | next h rest ih =>
    refine List.forall_mem_cons.2 ⟨?_, ih⟩
    simp only [Batch.size, batchReach]
    omega

lemma size_eq (h : Stepped size stop number start bs) : ∀ b ∈ bs.dropLast, b.size = size.val := by
  induction h with
  | done => simp
  | next h rest ih =>
    cases rest with
    | done => simp
    | next hnext rest =>
      rw [List.dropLast_cons_cons]
      refine List.forall_mem_cons.2 ⟨?_, ih⟩
      simp only [Batch.size, batchReach]
      omega

end Stepped

/-! ### Partitions -/

/-- The batches lie end to end from the first of the records to the last one, and all but the last
have the given size. -/
structure Partitions (size records : ℕ) (batches : List Batch) : Prop where
  ids : batches.map (·.id) = (List.range batches.length).map BatchId.mk
  first : ∀ b ∈ batches.head?, b.start = 0
  consecutive : batches.IsChain fun a b => b.start = a.stop
  last : ∀ b ∈ batches.getLast?, b.stop = records
  nonempty : ∀ b ∈ batches, b.start < b.stop
  inside : ∀ b ∈ batches, b.stop ≤ records
  full : ∀ b ∈ batches.dropLast, b.size = size
  size_le : ∀ b ∈ batches.getLast?, b.size ≤ size
  count : batches.length = ⌈(records / size : ℚ)⌉₊

lemma ceilDiv_eq_ceil (records : ℕ) (size : BatchSize) :
    ceilDiv records size.val = ⌈(records / size.val : ℚ)⌉₊ := by
  have hpos : (0 : ℚ) < size.val := Nat.cast_pos.2 size.pos
  refine eq_of_forall_ge_iff fun k => ?_
  rw [ceilDiv_le_iff size.pos, Nat.ceil_le, div_le_iff₀ hpos]
  norm_cast

lemma Stepped.partitions (h : Stepped size records 0 0 bs)
    (hcount : bs.length = ceilDiv records size.val) : Partitions size.val records bs where
  ids := by rw [h.map_id, List.range_eq_range']
  first := h.start_eq
  consecutive := h.isChain
  last := h.stop_eq
  nonempty b hb := (h.bounds b hb).1
  inside b hb := (h.bounds b hb).2.1
  full := h.size_eq
  size_le b hb := (h.bounds b (List.mem_of_getLast? hb)).2.2
  count := hcount.trans (ceilDiv_eq_ceil records size)

/-- No sum in a plan overflows exactly if full batches would not. -/
lemma forall_batchReach_lt_iff :
    (∀ start ∈ batchStarts records size, batchReach size start < wordBound) ↔
      Fits records size := by
  constructor
  · intro h
    rw [Fits]
    cases hc : ceilDiv records size.val with
    | zero => rw [Nat.zero_mul]; decide
    | succ c =>
      have hlast : c * size.val ∈ batchStarts records size :=
        List.mem_map.2 ⟨c, List.mem_range.2 (by omega), rfl⟩
      simpa only [batchReach, Nat.succ_mul] using h _ hlast
  · intro h start hstart
    obtain ⟨i, hi, rfl⟩ := List.mem_map.1 hstart
    exact h.batchReach_lt (List.mem_range.1 hi)

/-- A plan partitions its input: the slices of the batches, put together, are the input again. There
is a plan exactly if there is room for its batches, and for at most `2 ^ 63` records no sum on the
way leaves the range of words. -/
theorem planBatches_partitions (o : Overflow) (records : ℕ) (size : BatchSize)
    (hrecords : records ≤ 2 ^ 63) (hsize : size.val < wordBound) :
    (batchCapacity < ceilDiv records size.val → planBatches o records size = .error .capacity) ∧
    (ceilDiv records size.val ≤ batchCapacity → ∃ plan, planBatches o records size = .ok plan ∧
      plan.records = records ∧ plan.batchSize = size.val ∧
      Partitions size.val records plan.batches ∧
      ∀ (R : Type) (input : List R), input.length = records →
        (plan.batches.map (·.slice input)).flatten = input) ∧
    ∀ start ∈ batchStarts records size, batchReach size start < wordBound := by
  have hfits : Fits records size := fits_of_le hrecords hsize
  refine ⟨fun hfull => if_pos hfull, fun hroom => ?_, forall_batchReach_lt_iff.2 hfits⟩
  refine ⟨_, planBatches_of_plannable ⟨hroom, hfits⟩, rfl, rfl,
    (stepped_evenBatches records size).partitions (length_evenBatches records size), ?_⟩
  rintro R input rfl
  exact flatten_slices input size

/-- Two full batches and a shorter one. -/
theorem planBatches_partitions_short :
    25 ≤ 2 ^ 63 ∧ 10 < wordBound ∧ ∃ plan, planBatches .stops 25 ⟨10, by decide⟩ = .ok plan ∧
      Partitions 10 25 plan.batches ∧
      (plan.batches.map (·.slice (List.range 25))).flatten = List.range 25 ∧
      plan.batches.map (fun b => (b.start, b.stop)) = [(0, 10), (10, 20), (20, 25)] := by
  obtain ⟨-, hroom, -⟩ :=
    planBatches_partitions .stops 25 ⟨10, by decide⟩ (by decide) (by decide)
  obtain ⟨plan, hplan, -, -, hpartitions, hinput⟩ := hroom (by decide)
  refine ⟨by decide, by decide, plan, hplan, hpartitions,
    hinput ℕ (List.range 25) List.length_range, ?_⟩
  obtain rfl := Except.ok.inj hplan
  rfl

/-- As many records as bytes can be counted, each of them in a batch of its own: there is no room
for the batches in any memory. -/
theorem planBatches_lacks_room :
    let records := 9223372036854775808
    let size : BatchSize := ⟨1, by decide⟩
    records ≤ 2 ^ 63 ∧ size.val < wordBound ∧
      ∀ o, planBatches o records size = .error .capacity :=
  ⟨by decide, by decide, fun _ => if_pos (by decide)⟩

/-! ### Derived sizes -/

/-- How many batches an input should have for so many workers. -/
def targetBatches (workers : ℕ) : ℕ := max workers 1 * batchesPerWorker

/-- The size that spreads an input evenly over so many batches. -/
def evenSize (records workers : ℕ) : BatchSize where
  val := max (ceilDiv records (targetBatches workers)) 1
  pos := by omega

lemma targetBatches_pos (workers : ℕ) : 0 < targetBatches workers := by
  rw [targetBatches, batchesPerWorker]
  omega

lemma chooseBatchSize_of_lt (h : targetBatches workers < wordBound) :
    chooseBatchSize o records workers = .ok (evenSize records workers) := by
  have htarget : o.mul (max workers 1) batchesPerWorker = .ok (targetBatches workers) :=
    Overflow.word_of_lt h
  have hpos : targetBatches workers ≠ 0 := (targetBatches_pos workers).ne'
  rw [chooseBatchSize, htarget]
  exact if_neg hpos

/-- The derived size is the least one whose batches are not more than the target. -/
lemma evenSize_le_iff :
    (evenSize records workers).val ≤ size.val ↔
      ceilDiv records size.val ≤ targetBatches workers := by
  have hpos := size.pos
  rw [ceilDiv_le_iff hpos, Nat.mul_comm, ← ceilDiv_le_iff (targetBatches_pos workers)]
  simp only [evenSize]
  omega

/-- Unless batches have one record each, a size less by one makes more batches than the target; but
it is at least half the size. -/
lemma min_le_ceilDiv_evenSize (records workers : ℕ) :
    min records (2 * max workers 1) ≤ ceilDiv records (evenSize records workers).val := by
  generalize hsize : evenSize records workers = size
  have hpos := size.pos
  by_contra hfew
  rw [not_le, lt_min_iff] at hfew
  obtain ⟨hrecords, hworkers⟩ := hfew
  have hall := le_ceilDiv_mul records size
  rcases Nat.eq_or_lt_of_le hpos with hone | htwo
  · rw [← hone] at hall hrecords
    omega
  · have hless : targetBatches workers * (size.val - 1) < records := by
      have hmore : ¬ ceilDiv records (size.val - 1) ≤ targetBatches workers := by
        let smaller : BatchSize := ⟨size.val - 1, by omega⟩
        show ¬ ceilDiv records smaller.val ≤ targetBatches workers
        rw [← evenSize_le_iff, hsize]
        show ¬ size.val ≤ size.val - 1
        omega
      rwa [ceilDiv_le_iff (by omega), not_le] at hmore
    have hhalf : 2 * max workers 1 * size.val ≤ targetBatches workers * (size.val - 1) := calc
      2 * max workers 1 * size.val ≤ 2 * max workers 1 * (2 * (size.val - 1)) :=
        Nat.mul_le_mul_left _ (by omega)
      _ = targetBatches workers * (size.val - 1) := by
        rw [targetBatches, batchesPerWorker]
        ring
    have hreach := Nat.mul_le_mul_right size.val hworkers.le
    omega

/-- However the sums in a plan come out, it has as many batches as it has starts. -/
lemma size_of_planBatches {plan : BatchPlan} (h : planBatches o records size = .ok plan) :
    plan.size = ceilDiv records size.val := by
  rcases lt_or_ge batchCapacity (ceilDiv records size.val) with hfull | hroom
  · rw [planBatches, if_pos hfull] at h
    cases h
  · rw [planBatches_eq hroom] at h
    obtain ⟨batches, hbatches, h⟩ := exists_of_bind_eq_ok h
    obtain rfl := Except.ok.inj h
    rw [BatchPlan.size, ← (forall₂_of_mapM hbatches).length_eq, List.length_range]

lemma evenSize_lt (h : records < wordBound) : (evenSize records workers).val < wordBound := by
  have hle : ceilDiv records (targetBatches workers) ≤ records :=
    ceilDiv_le_self records ⟨_, targetBatches_pos workers⟩
  have hword : wordBound = 2 ^ 64 := rfl
  simp only [evenSize]
  omega

/-- A derived size spreads an input over the workers: a plan of this size has at most four batches
for each of them and, where there are records enough, at least two, and it is the least size that
makes no more than four. There is such a plan if there is room for its batches and full ones end
inside the words, as is the case for every input in memory. -/
theorem chooseBatchSize_spreads (o : Overflow) (records workers : ℕ)
    (hworkers : 4 * max workers 1 < wordBound) :
    let counted := max workers 1
    ∃ size, chooseBatchSize o records workers = .ok size ∧
      (∀ plan, planBatches o records size = .ok plan →
        plan.size ≤ 4 * counted ∧ min records (2 * counted) ≤ plan.size ∧
        (counted ≤ records → counted ≤ plan.size) ∧
        IsLeast {n | ∃ (s : BatchSize) (p : BatchPlan), s.val = n ∧
          planBatches o records s = .ok p ∧ p.size ≤ 4 * counted} size.val) ∧
      (Plannable records size → ∃ plan, planBatches o records size = .ok plan) ∧
      (records ≤ batchCapacity → Plannable records size) := by
  intro counted
  have htarget : targetBatches workers = 4 * counted := Nat.mul_comm _ _
  refine ⟨evenSize records workers, chooseBatchSize_of_lt (htarget ▸ hworkers),
    fun plan hplan => ?_, fun h => ⟨_, planBatches_of_plannable h⟩, fun hrecords => ?_⟩
  · have hsize := size_of_planBatches hplan
    have hmost : plan.size ≤ 4 * counted := hsize ▸ htarget ▸ evenSize_le_iff.1 le_rfl
    have hleast := min_le_ceilDiv_evenSize records workers
    rw [← hsize] at hleast
    refine ⟨hmost, hleast, fun henough => ?_, ⟨_, plan, rfl, hplan, hmost⟩, ?_⟩
    · refine le_trans (le_min henough ?_) hleast
      omega
    · rintro n ⟨s, p, rfl, hp, hfew⟩
      rw [size_of_planBatches hp] at hfew
      exact evenSize_le_iff.2 (htarget ▸ hfew)
  · exact plannable_of_le hrecords (evenSize_lt (lt_of_le_of_lt hrecords (by decide)))

/-- One record more than twenty batches of two hold: the size grows, and there are fourteen. -/
theorem chooseBatchSize_spreads_past_target :
    4 * max 5 1 < wordBound ∧ ∃ size plan, chooseBatchSize .stops 41 5 = .ok size ∧
      planBatches .stops 41 size = .ok plan ∧ 5 ≤ plan.size ∧ 10 ≤ plan.size ∧ plan.size ≤ 20 ∧
      size.val = 3 ∧ plan.size = 14 := by
  obtain ⟨size, hsize, hspreads, hplannable, hroom⟩ :=
    chooseBatchSize_spreads .stops 41 5 (by decide)
  obtain ⟨plan, hplan⟩ := hplannable (hroom (by decide))
  obtain ⟨hmost, hleast, henough, -⟩ := hspreads plan hplan
  refine ⟨by decide, size, plan, hsize, hplan, henough (by decide), hleast, hmost, ?_, ?_⟩
  · obtain rfl := Except.ok.inj hsize
    rfl
  · obtain rfl := Except.ok.inj hsize
    exact size_of_planBatches hplan

/-- Where every batch has one record, there may be no room for the batches. Where the records are
all that can be counted, the last of four batches reaches over the end of the words, and a checked
program stops. -/
theorem chooseBatchSize_lacks_room :
    4 * max 1152921504606846976 1 < wordBound ∧
      (∀ o, (chooseBatchSize o 4611686018427387904 1152921504606846976 >>=
        planBatches o 4611686018427387904) = .error .capacity) ∧
      (chooseBatchSize .stops 18446744073709551615 1 >>=
        planBatches .stops 18446744073709551615) = .error .addition := by
  refine ⟨by decide, fun o => ?_, by decide⟩
  cases o <;> decide

end Groupwise
