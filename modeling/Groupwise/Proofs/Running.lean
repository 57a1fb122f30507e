import Groupwise.Engine
import Groupwise.Proofs.Cutting
import Groupwise.Proofs.Digesting
import Groupwise.Proofs.Planning

/-!
# Runs of an engine

A run folds the parts of its input (`Engine.parts`): the whole input in a serial mode, its batches
in a parallel one. If there are parts, the run has an outcome (`Engine.exists_run`), and else it
stops for the same reason (`Engine.run_of_error`), which is never anything but a trap
(`Engine.stopped_of_parts`). A list of positions that is in memory has parts if the shards and the
target number of batches are not beyond all measure (`Engine.HasRoom`), and they make up the input.
-/

namespace Groupwise

/-- Entries whose keys and values all have a JSON form have a digest. -/
lemma exists_digestEntries {K A : Type} [Ord K] [Json.ToValue K] [Json.ToValue A]
    (entries : List (K × A)) : ∃ digest, digestEntries entries = .ok digest := by
  obtain ⟨bytes, hbytes⟩ := Digest.exists_entryStream entries
  rw [digestEntries, hbytes]
  exact ⟨_, rfl⟩

namespace Engine

variable {V : Type} [Number V] {e : Engine V} {schedule : Schedule (GroupKey V)} {kind : RunKind}
  {positions : List (Position V)} {cause : EngineError V}

/-! ### Engines -/

/-- An engine has the configuration it was made for and the workers that it asks for. -/
lemma of_new {o : Overflow} {machine : WorkerPool} {config : Config V}
    (h : new o machine config = .ok e) :
    e.config = config ∧ e.workers = config.parallelism.getD machine.threads := by
  unfold new at h
  split at h
  · cases h
  cases hparallelism : config.parallelism with
  | none =>
    simp only [hparallelism] at h
    obtain rfl := Except.ok.inj h
    exact ⟨rfl, rfl⟩
  | some n =>
    simp only [hparallelism, WorkerPool.ofThreads?] at h
    split_ifs at h
    obtain rfl := Except.ok.inj h
    exact ⟨rfl, rfl⟩

/-! ### Parts -/

/-- The check of batch sizes lets every size of an engine pass. -/
lemma aggregator_eq (e : Engine V) (schedule : Schedule (GroupKey V)) (records : ℕ) :
    e.aggregator schedule records = match e.batchSizeFor records with
      | .error cause => .error (stopped cause)
      | .ok size => .ok ⟨e.overflow, size, max e.config.lockShards 1, .none, schedule⟩ := by
  rw [aggregator]
  cases e.batchSizeFor records with
  | error cause => rfl
  | ok size =>
    have hsize : BatchSize.ofNat? size.val = some size := dif_pos size.pos
    simp only [ParallelAggregator.ofSize?, hsize]
    rfl

/-- The parts that a run folds, or what stops it before the first of them. -/
def parts (e : Engine V) (schedule : Schedule (GroupKey V)) (kind : RunKind)
    (positions : List (Position V)) : Except (EngineError V) (List (List (Position V))) :=
  if kind.mode.isParallel then
    match e.aggregator schedule positions.length with
    | .error cause => .error cause
    | .ok p => (p.parts kind.style positions).mapError stopped
  else .ok [positions]

variable {parts : List (List (Position V))}

lemma parts_serial (h : kind.mode.isParallel = false) :
    e.parts schedule kind positions = .ok [positions] := by
  rw [Engine.parts, h, if_neg Bool.false_ne_true]

/-- What a parallel run needs to have parts. -/
lemma parts_parallel_eq_ok (h : e.parts schedule kind positions = .ok parts)
    (hkind : kind.mode.isParallel = true) :
    ∃ p, e.aggregator schedule positions.length = .ok p ∧
      p.parts kind.style positions = .ok parts := by
  rw [Engine.parts, if_pos hkind] at h
  cases hp : e.aggregator schedule positions.length with
  | error cause => rw [hp] at h; cases h
  | ok p =>
    simp only [hp] at h
    exact ⟨p, rfl, of_mapError_eq_ok h⟩

/-- The size check, the configuration and the digest are no reasons to stop: only traps are. -/
lemma stopped_of_parts (h : e.parts schedule kind positions = .error cause) :
    ∃ t, cause = stopped t := by
  rw [Engine.parts, aggregator_eq] at h
  split_ifs at h
  cases hsize : e.batchSizeFor positions.length with
  | error t =>
    rw [hsize] at h
    exact ⟨t, (Except.error.inj h).symm⟩
  | ok size =>
    simp only [hsize] at h
    obtain ⟨t, -, rfl⟩ := exists_of_mapError_eq_error h
    exact ⟨t, rfl⟩

/-- Parts have no other positions than the input. -/
lemma flatten_parts_subset (h : e.parts schedule kind positions = .ok parts) :
    parts.flatten ⊆ positions := by
  cases hkind : kind.mode.isParallel with
  | false =>
    rw [parts_serial hkind] at h
    obtain rfl := Except.ok.inj h
    rw [List.flatten_singleton]
    exact List.Subset.refl positions
  | true =>
    obtain ⟨p, -, hparts⟩ := parts_parallel_eq_ok h hkind
    obtain ⟨plan, -, rfl, -⟩ := ParallelAggregator.parts_eq_ok hparts
    exact flatten_slices_subset plan.batches positions

/-! ### Room -/

/-- The positions are in memory, 24 bytes each, and the configured batch size is a word. -/
structure Sized (e : Engine V) (records : ℕ) : Prop where
  records_le : records ≤ batchCapacity
  batchSize_lt : ∀ n, e.config.batchSize = some n → n < wordBound

/-- There is room for the shards of a shared map, and the number of batches that the workers should
get is a word if the batch size is derived from it. -/
structure HasRoom (e : Engine V) (kind : RunKind) : Prop where
  shards_le : kind.mode.isParallel = true → kind.style = .inPlace →
    e.config.lockShards ≤ shardCapacity
  workers_lt : kind.mode.isParallel = true → e.config.batchSize = none →
    targetBatches e.workers < wordBound

variable {records : ℕ} {size : BatchSize}

lemma Sized.of_batchSize {n : ℕ} (h : e.config.batchSize = some n) (hn : n < wordBound)
    (hrecords : records ≤ batchCapacity) : e.Sized records := by
  refine ⟨hrecords, fun m hm => ?_⟩
  obtain rfl := Option.some.inj (h.symm.trans hm)
  exact hn

lemma HasRoom.of_batchSize {n : ℕ} (h : e.config.batchSize = some n)
    (hshards : e.config.lockShards ≤ shardCapacity) (kind : RunKind) : e.HasRoom kind := by
  refine ⟨fun _ _ => hshards, fun _ hnone => ?_⟩
  cases h.symm.trans hnone

lemma batchSizeFor_of_none (h : e.config.batchSize = none) (records : ℕ) :
    e.batchSizeFor records = chooseBatchSize e.overflow records e.workers := by
  rw [batchSizeFor, h]
  rfl

/-- A valid configuration has no batch size of zero. -/
lemma batchSizeFor_of_some {n : ℕ} (h : e.config.batchSize = some n) (records : ℕ) :
    ∃ size : BatchSize, size.val = n ∧ e.batchSizeFor records = .ok size := by
  have hpos : 0 < n := by
    refine Nat.pos_of_ne_zero fun hzero => ?_
    have hvalid := e.valid
    rw [Config.validate, if_pos (hzero ▸ h)] at hvalid
    cases hvalid
  refine ⟨⟨n, hpos⟩, rfl, ?_⟩
  simp only [batchSizeFor, h, Option.bind_some, BatchSize.ofNat?, dif_pos hpos]

lemma batchSizeFor_lt (hsized : e.Sized records) (h : e.batchSizeFor records = .ok size) :
    size.val < wordBound := by
  cases hconfig : e.config.batchSize with
  | some n =>
    obtain ⟨size', hval, hsize'⟩ := batchSizeFor_of_some hconfig records
    obtain rfl : size' = size := Except.ok.inj (hsize'.symm.trans h)
    exact hval ▸ hsized.batchSize_lt n hconfig
  | none =>
    rw [batchSizeFor_of_none hconfig, chooseBatchSize] at h
    obtain ⟨target, -, h⟩ := exists_of_bind_eq_ok h
    split_ifs at h with hzero
    obtain rfl := Except.ok.inj h
    have hle := ceilDiv_le_self records ⟨target, Nat.pos_of_ne_zero hzero⟩
    have hword : records < wordBound := lt_of_le_of_lt hsized.records_le (by decide)
    exact max_lt (lt_of_le_of_lt hle hword) (by decide)

lemma plannable_of_sized (hsized : e.Sized records) (h : e.batchSizeFor records = .ok size) :
    Plannable records size :=
  plannable_of_le hsized.records_le (batchSizeFor_lt hsized h)

/-- The parts of a parallel run are its batches. -/
lemma parts_eq_slices (hsized : e.Sized positions.length)
    (h : e.parts schedule kind positions = .ok parts) (hkind : kind.mode.isParallel = true) :
    ∃ p, e.aggregator schedule positions.length = .ok p ∧
      e.batchSizeFor positions.length = .ok p.batchSize ∧
      p.plan positions.length = .ok ⟨positions.length, p.batchSize.val,
        evenBatches positions.length p.batchSize⟩ ∧
      parts = (evenBatches positions.length p.batchSize).map (·.slice positions) := by
  obtain ⟨p, hp, hparts⟩ := parts_parallel_eq_ok h hkind
  refine ⟨p, hp, ?_⟩
  rw [aggregator_eq] at hp
  cases hsize : e.batchSizeFor positions.length with
  | error cause => rw [hsize] at hp; cases hp
  | ok size =>
    rw [hsize] at hp
    obtain rfl := Except.ok.inj hp
    obtain ⟨plan, hplan, rfl, -⟩ := ParallelAggregator.parts_eq_ok hparts
    have heven := planBatches_of_plannable (o := e.overflow) (plannable_of_sized hsized hsize)
    obtain rfl := Except.ok.inj (heven.symm.trans hplan)
    exact ⟨rfl, heven, rfl⟩

/-- Put together, the parts are the input. -/
lemma flatten_parts (hsized : e.Sized positions.length)
    (h : e.parts schedule kind positions = .ok parts) : parts.flatten = positions := by
  cases hkind : kind.mode.isParallel with
  | false =>
    rw [parts_serial hkind] at h
    obtain rfl := Except.ok.inj h
    exact List.flatten_singleton
  | true =>
    obtain ⟨p, -, -, -, rfl⟩ := parts_eq_slices hsized h hkind
    exact flatten_slices positions p.batchSize

/-- With room, a run has parts. -/
lemma exists_parts (hsized : e.Sized positions.length) (hroom : e.HasRoom kind)
    (schedule : Schedule (GroupKey V)) : ∃ parts, e.parts schedule kind positions = .ok parts := by
  cases hkind : kind.mode.isParallel with
  | false => exact ⟨_, parts_serial hkind⟩
  | true =>
    have hsize : ∃ size, e.batchSizeFor positions.length = .ok size := by
      cases hconfig : e.config.batchSize with
      | some n =>
        obtain ⟨size, -, hsize⟩ := batchSizeFor_of_some hconfig positions.length
        exact ⟨size, hsize⟩
      | none =>
        rw [batchSizeFor_of_none hconfig]
        exact ⟨_, chooseBatchSize_of_lt (hroom.workers_lt hkind hconfig)⟩
    obtain ⟨size, hsize⟩ := hsize
    have hp : (⟨e.overflow, size, max e.config.lockShards 1, .none, schedule⟩ :
        ParallelAggregator (GroupKey V)).HasRoom kind.style positions.length :=
      ⟨plannable_of_sized hsized hsize, fun hstyle =>
        max_le (hroom.shards_le hkind hstyle) SharedMap.one_le_shardCapacity⟩
    rw [Engine.parts, if_pos hkind, aggregator_eq, hsize]
    simp only [hp.parts_eq]
    exact ⟨_, rfl⟩

/-- Without room for its shards, a run that shares a map is stopped. -/
lemma parts_of_lt_lockShards (hsized : e.Sized positions.length)
    (hsize : e.batchSizeFor positions.length = .ok size) (hkind : kind.mode.isParallel = true)
    (hstyle : kind.style = .inPlace) (hshards : shardCapacity < e.config.lockShards) :
    e.parts schedule kind positions = .error (stopped .capacity) := by
  have hparts : (⟨e.overflow, size, max e.config.lockShards 1, .none, schedule⟩ :
      ParallelAggregator (GroupKey V)).parts .inPlace positions = .error .capacity :=
    ParallelAggregator.parts_of_lt_lockShards (plannable_of_sized hsized hsize)
      (lt_max_of_lt_left hshards)
  rw [Engine.parts, if_pos hkind, aggregator_eq, hsize]
  simp only [hstyle, hparts]
  rfl

/-! ### Results -/

/-- Lazy views are no different from eager ones. -/
lemma execute_eq {A : Type} [Merge A] (e : Engine V) (schedule : Schedule (GroupKey V))
    (kind : RunKind) (a : Aggregation (Except Abort) (Position V) (GroupKey V) A)
    (positions : List (Position V)) :
    e.execute schedule kind a positions =
      if kind.mode.isParallel then
        match e.aggregator schedule positions.length with
        | .error cause => .error cause
        | .ok p => (a.parallel p kind.style positions).mapError .aborted
      else (a.serial kind.style positions).mapError .aborted := by
  obtain ⟨mode, style, grouping⟩ := kind
  cases mode <;> rfl

section

variable {A : Type} [Merge A] (key : Position V → GroupKey V) (zero : A) (add : A → Position V → A)

lemma execute_of_error (h : e.parts schedule kind positions = .error cause) :
    e.execute schedule kind (Aggregation.quiet key zero add) positions = .error cause := by
  rw [Engine.parts] at h
  rw [execute_eq]
  split_ifs at h ⊢
  cases hp : e.aggregator schedule positions.length with
  | error cause' =>
    rw [hp] at h
    exact congrArg Except.error (Except.error.inj h)
  | ok p =>
    simp only [hp] at h ⊢
    obtain ⟨t, hparts, rfl⟩ := exists_of_mapError_eq_error h
    rw [(Aggregation.quiet key zero add).parallel_stopped (fun _ _ => rfl) hparts]
    rfl

lemma exists_execute (h : e.parts schedule kind positions = .ok parts) :
    ∃ g, e.execute schedule kind (Aggregation.quiet key zero add) positions = .ok g ∧
      FoldedFrom key zero add parts kind.style g := by
  rw [execute_eq]
  cases hkind : kind.mode.isParallel with
  | false =>
    rw [parts_serial hkind] at h
    obtain rfl := Except.ok.inj h
    rw [if_neg Bool.false_ne_true, Aggregation.serial_quiet]
    exact ⟨_, rfl, .serial positions kind.style⟩
  | true =>
    obtain ⟨p, hp, hparts⟩ := parts_parallel_eq_ok h hkind
    have hnone : p.failpoints = .none := by
      rw [aggregator_eq] at hp
      split at hp
      · cases hp
      · obtain rfl := Except.ok.inj hp
        rfl
    obtain ⟨g, hg, hfolded⟩ := Aggregation.parallel_quiet hnone key zero add hparts
    rw [if_pos rfl, hp]
    simp only [hg]
    exact ⟨g, rfl, hfolded⟩

end

/-- The result of a run of the given kind whose input was cut into the given parts. -/
def Makes (kind : RunKind) (parts : List (List (Position V)))
    (result : GroupMap (GroupKey V) (Stats V)) : Prop :=
  match kind.style with
  | .immutable => FoldedFrom kind.grouping.key Stats.zero (fun s p => s.addValue p.marketValue)
      parts kind.style result
  | .inPlace | .inPlaceReduce => ∃ g, FoldedFrom kind.grouping.key Accumulator.empty
      (fun a p => a.accept p.marketValue) parts kind.style g ∧
        result = g.mapValues Accumulator.snapshot

/-- What holds of plain summaries and of the snapshots of compensated ones holds of the result. -/
lemma Makes.gathers {result : GroupMap (GroupKey V) (Stats V)} (h : Makes kind parts result)
    {holds : Multiset (Position V) → Stats V → Prop}
    (hplain : ∀ ps s,
      Collected Stats.zero (fun s (p : Position V) => s.addValue p.marketValue) ps s → holds ps s)
    (hcompensated : ∀ ps a,
      Collected Accumulator.empty (fun a (p : Position V) => a.accept p.marketValue) ps a →
        holds ps a.snapshot) :
    result.Gathers kind.grouping.key holds parts.flatten := by
  obtain ⟨mode, style, grouping⟩ := kind
  cases style with
  | immutable => exact (FoldedFrom.gathers h).mono hplain
  | inPlace | inPlaceReduce =>
    obtain ⟨g, hg, rfl⟩ := h
    exact hg.gathers.mapValues _ hcompensated

lemma result_of_error (h : e.parts schedule kind positions = .error cause) :
    e.result schedule kind positions = .error cause := by
  have hplain : e.execute schedule kind (plain kind.grouping) positions = .error cause :=
    execute_of_error kind.grouping.key Stats.zero (fun s p => s.addValue p.marketValue) h
  have hcompensated : e.execute schedule kind (compensated kind.grouping) positions =
      .error cause :=
    execute_of_error kind.grouping.key Accumulator.empty (fun a p => a.accept p.marketValue) h
  obtain ⟨mode, style, grouping⟩ := kind
  cases style with
  | immutable => exact hplain
  | inPlace | inPlaceReduce =>
    exact congrArg (GroupMap.mapValues Accumulator.snapshot <$> ·) hcompensated

/-- Runs in place take a snapshot of each compensated summary. -/
lemma exists_result (h : e.parts schedule kind positions = .ok parts) :
    ∃ result, e.result schedule kind positions = .ok result ∧ Makes kind parts result := by
  obtain ⟨m, hm, hplain⟩ := exists_execute kind.grouping.key Stats.zero
    (fun s p => s.addValue p.marketValue) h
  obtain ⟨g, hg, hcompensated⟩ := exists_execute kind.grouping.key Accumulator.empty
    (fun a p => a.accept p.marketValue) h
  obtain ⟨mode, style, grouping⟩ := kind
  cases style with
  | immutable => exact ⟨m, hm, hplain⟩
  | inPlace | inPlaceReduce =>
    exact ⟨_, congrArg (GroupMap.mapValues Accumulator.snapshot <$> ·) hg, g, hcompensated, rfl⟩

lemma exists_result_of_hasRoom (hsized : e.Sized positions.length) (hroom : e.HasRoom kind)
    (schedule : Schedule (GroupKey V)) :
    ∃ result, e.result schedule kind positions = .ok result := by
  obtain ⟨parts, hparts⟩ := exists_parts hsized hroom schedule
  obtain ⟨result, hresult, -⟩ := exists_result hparts
  exact ⟨result, hresult⟩

lemma result_eq_ok {result : GroupMap (GroupKey V) (Stats V)}
    (h : e.result schedule kind positions = .ok result) :
    ∃ parts, e.parts schedule kind positions = .ok parts ∧ Makes kind parts result := by
  cases hparts : e.parts schedule kind positions with
  | error cause =>
    rw [result_of_error hparts] at h
    cases h
  | ok parts =>
    obtain ⟨result', hresult', hmakes⟩ := exists_result hparts
    obtain rfl := Except.ok.inj (hresult'.symm.trans h)
    exact ⟨parts, rfl, hmakes⟩

/-! ### Manifests -/

section

variable {id : Uuid} {started : ℕ} {m : Manifest}

/-- The manifest of a serial run. -/
lemma manifest_serial (h : kind.mode.isParallel = false) :
    e.manifest id schedule kind records started =
      .ok ((Manifest.start id kind records started).withSeed e.config.seed) := by
  rw [manifest, h]
  rfl

/-- The manifest of a parallel run whose batches were planned. -/
lemma manifest_parallel {p : ParallelAggregator (GroupKey V)} {plan : BatchPlan}
    (h : kind.mode.isParallel = true) (hp : e.aggregator schedule records = .ok p)
    (hplan : p.plan records = .ok plan) :
    e.manifest id schedule kind records started =
      .ok (((Manifest.start id kind records started).withSeed e.config.seed).withBatching
        p.batchSize.val plan.size e.workers) := by
  simp only [manifest, h, if_true, hp, hplan]

lemma manifest_eq_ok (h : e.manifest id schedule kind records started = .ok m) :
    m.kind = kind ∧ m.seed = e.config.seed := by
  rw [manifest] at h
  split_ifs at h
  · split at h
    · cases h
    · split at h
      · cases h
      · obtain rfl := Except.ok.inj h
        exact ⟨rfl, rfl⟩
  · obtain rfl := Except.ok.inj h
    exact ⟨rfl, rfl⟩

lemma exists_manifest (h : e.parts schedule kind positions = .ok parts) :
    ∃ m, e.manifest id schedule kind positions.length started = .ok m := by
  cases hkind : kind.mode.isParallel with
  | false => exact ⟨_, manifest_serial hkind⟩
  | true =>
    obtain ⟨p, hp, hparts⟩ := parts_parallel_eq_ok h hkind
    obtain ⟨plan, hplan, -⟩ := ParallelAggregator.parts_eq_ok hparts
    exact ⟨_, manifest_parallel hkind hp hplan⟩

/-- A manifest that cannot be started is one of a run that has no parts, for the same reason. -/
lemma parts_of_manifest_error
    (h : e.manifest id schedule kind positions.length started = .error cause) :
    e.parts schedule kind positions = .error cause := by
  rw [manifest] at h
  split_ifs at h with hkind
  rw [Engine.parts, if_pos hkind]
  cases hp : e.aggregator schedule positions.length with
  | error cause' =>
    rw [hp] at h
    exact congrArg Except.error (Except.error.inj h)
  | ok p =>
    simp only [hp] at h ⊢
    cases hplan : p.plan positions.length with
    | ok plan => rw [hplan] at h; cases h
    | error t =>
      rw [hplan] at h
      rw [ParallelAggregator.parts, hplan]
      exact congrArg Except.error (Except.error.inj h)

end

/-! ### Outcomes -/

variable [Json.ToValue V] {reading : Reading V} {o : RunOutcome V}

/-- What an outcome of a run consists of. -/
lemma run_eq_ok (h : e.run reading kind positions = .ok o) :
    ∃ m digest, e.manifest reading.id reading.schedule kind positions.length reading.started =
        .ok m ∧
      e.result reading.schedule kind positions = .ok o.result ∧
      digestEntries o.result.entries = .ok digest ∧
      o.manifest = m.finish reading.finished o.result.size (some digest) := by
  obtain ⟨m, hm, h⟩ := exists_of_bind_eq_ok h
  obtain ⟨result, hresult, h⟩ := exists_of_bind_eq_ok h
  rw [conclude] at h
  split at h
  · cases h
  · next digest hdigest =>
    obtain rfl := Except.ok.inj h
    exact ⟨m, digest, hm, hresult, hdigest, rfl⟩

lemma result_of_run (h : e.run reading kind positions = .ok o) :
    e.result reading.schedule kind positions = .ok o.result := by
  obtain ⟨_, _, -, hresult, -, -⟩ := run_eq_ok h
  exact hresult

lemma digest_of_run (h : e.run reading kind positions = .ok o) :
    ∃ digest, digestEntries o.result.entries = .ok digest ∧ o.manifest.digest = some digest := by
  obtain ⟨m, digest, -, -, hdigest, hmanifest⟩ := run_eq_ok h
  refine ⟨digest, hdigest, ?_⟩
  rw [hmanifest]
  rfl

lemma run_of_error (h : e.parts reading.schedule kind positions = .error cause) :
    e.run reading kind positions = .error cause := by
  rw [run]
  cases hm : e.manifest reading.id reading.schedule kind positions.length reading.started with
  | error cause' =>
    obtain rfl := Except.error.inj ((parts_of_manifest_error hm).symm.trans h)
    rfl
  | ok m =>
    rw [result_of_error h]
    rfl

/-- A run that has parts has an outcome. -/
lemma exists_run (h : e.parts reading.schedule kind positions = .ok parts) :
    ∃ o, e.run reading kind positions = .ok o := by
  obtain ⟨m, hm⟩ : ∃ m, e.manifest reading.id reading.schedule kind positions.length
      reading.started = .ok m := exists_manifest h
  obtain ⟨result, hresult, -⟩ := exists_result h
  obtain ⟨digest, hdigest⟩ := exists_digestEntries result.entries
  rw [run, hm, hresult]
  refine ⟨⟨m.finish reading.finished result.size (some digest), result⟩, ?_⟩
  show conclude m reading.finished result = _
  rw [conclude, hdigest]

lemma exists_run_of_hasRoom (hsized : e.Sized positions.length) (hroom : e.HasRoom kind)
    (reading : Reading V) : ∃ o, e.run reading kind positions = .ok o := by
  obtain ⟨parts, hparts⟩ := exists_parts hsized hroom reading.schedule
  exact exists_run hparts

/-- A run whose aggregation has a result has an outcome with this result. -/
lemma exists_run_of_result (reading : Reading V) {result : GroupMap (GroupKey V) (Stats V)}
    (h : e.result reading.schedule kind positions = .ok result) :
    ∃ o, e.run reading kind positions = .ok o ∧ o.result = result := by
  obtain ⟨parts, hparts, -⟩ := result_eq_ok h
  obtain ⟨o, ho⟩ := exists_run hparts
  exact ⟨o, ho, Except.ok.inj ((result_of_run ho).symm.trans h)⟩

lemma stopped_of_run (h : e.run reading kind positions = .error cause) :
    ∃ t, cause = stopped t := by
  cases hparts : e.parts reading.schedule kind positions with
  | error cause' =>
    obtain rfl := Except.error.inj ((run_of_error hparts).symm.trans h)
    exact stopped_of_parts hparts
  | ok parts =>
    obtain ⟨o, ho⟩ := exists_run hparts
    cases ho.symm.trans h

/-! ### Reports -/

section

omit [Json.ToValue V]

variable {tolerance : V} {baseline o : RunOutcome V} {mode : Mode}
  {run : ℕ → Mode → Except (EngineError V) (RunOutcome V)}

lemma report_eq_ok {r : ModeReport V} (h : report tolerance baseline mode o = .ok r) :
    r = ⟨o, decide (o.manifest.digest = baseline.manifest.digest)⟩ := by
  rw [report] at h
  split at h
  · cases h
  · exact (Except.ok.inj h).symm

lemma reports_eq_bind (tolerance : V) (baseline : RunOutcome V)
    (run : ℕ → Mode → Except (EngineError V) (RunOutcome V)) (n : ℕ) (mode : Mode)
    (modes : List Mode) :
    reports tolerance baseline run n (mode :: modes) =
      (if mode = .serialEager then .ok baseline else run n mode) >>= fun o =>
        report tolerance baseline mode o >>= fun r =>
          (r :: ·) <$> reports tolerance baseline run (n + 1) modes := by
  have hofExcept : ∀ {α : Type} (x : Except (EngineError V) α), MonadExcept.ofExcept x = x := by
    rintro α (_ | _) <;> rfl
  simp only [reports, hofExcept]
  split_ifs <;> rfl

/-- The outcomes that are reported on in a mode: the baseline stands in for a serial, eager run. -/
def IsReported (baseline : RunOutcome V) (run : ℕ → Mode → Except (EngineError V) (RunOutcome V))
    (mode : Mode) (o : RunOutcome V) : Prop :=
  mode = .serialEager ∧ o = baseline ∨ ∃ n, run n mode = .ok o

omit [Number V] in
lemma isReported_of_eq_ok {n : ℕ}
    (h : (if mode = .serialEager then .ok baseline else run n mode) = .ok o) :
    IsReported baseline run mode o := by
  split_ifs at h with hmode
  · exact .inl ⟨hmode, (Except.ok.inj h).symm⟩
  · exact .inr ⟨n, h⟩

/-- Each report is made of an outcome that passed the check. -/
lemma forall₂_of_reports {n : ℕ} {modes : List Mode} {rs : List (ModeReport V)}
    (h : reports tolerance baseline run n modes = .ok rs) :
    List.Forall₂ (fun mode r => ∃ o, IsReported baseline run mode o ∧
      report tolerance baseline mode o = .ok r) modes rs := by
  induction modes generalizing n rs with
  | nil =>
    obtain rfl := Except.ok.inj h
    exact .nil
  | cons mode modes ih =>
    rw [reports_eq_bind] at h
    obtain ⟨o, ho, h⟩ := exists_of_bind_eq_ok h
    obtain ⟨r, hr, h⟩ := exists_of_bind_eq_ok h
    obtain ⟨rest, hrest, rfl⟩ := exists_of_map_eq_ok h
    exact .cons ⟨o, isReported_of_eq_ok ho, hr⟩ (ih hrest)

/-- What the reports of modes consist of. -/
lemma reports_eq_ok {n : ℕ} {modes : List Mode} {rs : List (ModeReport V)}
    (h : reports tolerance baseline run n modes = .ok rs) :
    List.Forall₂ (fun mode r => IsReported baseline run mode r.outcome ∧
      r.identical = decide (r.outcome.manifest.digest = baseline.manifest.digest)) modes rs := by
  refine (forall₂_of_reports h).imp ?_
  rintro mode r ⟨o, ho, hr⟩
  obtain rfl := report_eq_ok hr
  exact ⟨ho, rfl⟩

/-- If reports fail, then a run fails, or an outcome does not pass the check. -/
lemma reports_eq_error {n : ℕ} {modes : List Mode}
    (h : reports tolerance baseline run n modes = .error cause) :
    ∃ mode ∈ modes, (∃ n, run n mode = .error cause) ∨
      ∃ o, IsReported baseline run mode o ∧ report tolerance baseline mode o = .error cause := by
  induction modes generalizing n with
  | nil => cases h
  | cons mode modes ih =>
    rw [reports_eq_bind] at h
    rcases cases_of_bind_eq_error h with h | ⟨o, ho, h⟩
    · split_ifs at h
      exact ⟨mode, List.mem_cons_self, .inl ⟨n, h⟩⟩
    rcases cases_of_bind_eq_error h with h | ⟨r, hr, h⟩
    · exact ⟨mode, List.mem_cons_self, .inr ⟨o, isReported_of_eq_ok ho, h⟩⟩
    cases hrest : reports tolerance baseline run (n + 1) modes with
    | ok rs => rw [hrest] at h; cases h
    | error cause' =>
      rw [hrest] at h
      obtain rfl := Except.error.inj h
      obtain ⟨mode', hmode', hcases⟩ := ih hrest
      exact ⟨mode', List.mem_cons_of_mem mode hmode', hcases⟩

end

/-- A comparison reports on its modes once the baseline is there. -/
lemma compareModes_eq {readings : ℕ → Reading V} {grouping : Grouping} {style : Style}
    {baseline : RunOutcome V}
    (h : e.run (readings 0) ⟨.serialEager, style, grouping⟩ positions = .ok baseline)
    (modes : List Mode) :
    e.compareModes readings grouping style modes positions =
      reports e.config.sumTolerance baseline
        (fun n mode => e.run (readings n) ⟨mode, style, grouping⟩ positions) 1 modes := by
  rw [compareModes, compareWith, h]
  rfl

end Engine

end Groupwise
