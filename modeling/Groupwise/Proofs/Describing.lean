import Groupwise.Proofs.Tallying
import Mathlib.Algebra.Order.Floor.Div

/-!
# Runs are described as they were

The manifest of an outcome says what was done: the batches that it counts are those the input was
cut into (`CutInto`) and the result was folded from (`FoldedFrom`), the groups that it counts and
the digest are those of the result. A run of an engine that was made for a valid configuration has
an outcome if there is room for its shards and batches, and nothing but a trap can stop it
(`Engine.run_described`). But not every configuration that is valid leaves room
(`Engine.run_lacks_room`).
-/

namespace Groupwise

/-! ### The batches of an input -/

section

variable {R : Type} {records : List R} {size : Nat}

/-- The parts are the records in order, `size` of them in each part but the last, which may have
fewer. -/
structure CutInto (records : List R) (size : Nat) (parts : List (List R)) : Prop where
  length : parts.length = records.length ⌈/⌉ size
  part : ∀ i part, parts[i]? = some part → part = (records.drop (i * size)).take size ∧ part ≠ []
  flatten : parts.flatten = records

lemma cutInto_slices (records : List R) (size : BatchSize) :
    CutInto records size.val ((evenBatches records.length size).map (·.slice records)) := by
  refine ⟨?_, ?_, flatten_slices records size⟩
  · rw [List.length_map, length_evenBatches, ceilDiv, Nat.ceilDiv_eq_add_pred_div]
  · intro i part hpart
    rw [slices_evenBatches, List.getElem?_map, Option.map_eq_some_iff] at hpart
    obtain ⟨j, hj, rfl⟩ := hpart
    obtain ⟨hlt, rfl⟩ : i < ceilDiv records.length size.val ∧ i = j := by
      simpa [List.getElem?_eq_some_iff] using hj
    refine ⟨rfl, ?_⟩
    have hinside := mul_lt_of_lt_ceilDiv hlt
    have hpos := size.pos
    rw [← List.length_pos_iff, List.length_take, List.length_drop]
    exact lt_min hpos (Nat.sub_pos_of_lt hinside)

end

/-! ### Engines -/

namespace Engine

variable {V : Type} [Number V] {o : Overflow} {machine : WorkerPool} {config : Config V}
  {e : Engine V}

/-- A batch size is the configured one, or it is derived from the input. -/
lemma batchSizeFor_cases {records : ℕ} {size : BatchSize} (h : e.batchSizeFor records = .ok size) :
    e.config.batchSize = some size.val ∨
      e.config.batchSize = none ∧ chooseBatchSize e.overflow records e.workers = .ok size := by
  cases hconfig : e.config.batchSize with
  | none => exact .inr ⟨rfl, batchSizeFor_of_none hconfig records ▸ h⟩
  | some n =>
    obtain ⟨size', rfl, hsize'⟩ := batchSizeFor_of_some hconfig records
    obtain rfl := Except.ok.inj (hsize'.symm.trans h)
    exact .inl rfl

/-! ### Manifests -/

variable {kind : RunKind} {positions : List (Position V)} {outcome : RunOutcome V}

/-- The manifest of a serial run has no batches and one worker. -/
structure DescribesSerial (m : Manifest) : Prop where
  batchSize : m.batchSize = none
  batches : m.batches = 0
  workers : m.workers = 1

/-- The manifest tells the workers of the pool and the batches that were folded. -/
structure DescribesParallel (e : Engine V) (kind : RunKind) (positions : List (Position V))
    (outcome : RunOutcome V) (size : BatchSize) (parts : List (List (Position V))) : Prop where
  batchSize : outcome.manifest.batchSize = some size.val
  configured : e.config.batchSize = some size.val ∨ e.config.batchSize = none ∧
    chooseBatchSize e.overflow positions.length e.workers = .ok size
  batches : outcome.manifest.batches = positions.length ⌈/⌉ size.val
  folded : outcome.manifest.batches = parts.length
  cut : CutInto positions size.val parts
  makes : Makes kind parts outcome.result
  workers : outcome.manifest.workers = e.workers

variable [Json.ToValue V]

/-- The manifest of an outcome tells what was done. -/
structure Describes (e : Engine V) (kind : RunKind) (positions : List (Position V))
    (outcome : RunOutcome V) : Prop where
  kind_eq : outcome.manifest.kind = kind
  seed : outcome.manifest.seed = e.config.seed
  records : outcome.manifest.records = positions.length
  groups : outcome.manifest.groups = outcome.result.keys.length
  digest : ∃ digest, digestEntries outcome.result.entries = .ok digest ∧
    outcome.manifest.digest = some digest
  serial : kind.mode.isParallel = false → DescribesSerial outcome.manifest
  parallel : kind.mode.isParallel = true →
    ∃ size parts, DescribesParallel e kind positions outcome size parts

/-- The manifest of every outcome tells what was done. -/
lemma describes_of_run {reading : Reading V} (hsized : e.Sized positions.length)
    (h : e.run reading kind positions = .ok outcome) : Describes e kind positions outcome := by
  obtain ⟨m, digest, hm, hresult, hdigest, hmanifest⟩ := run_eq_ok h
  obtain ⟨parts, hparts, hmakes⟩ := result_eq_ok hresult
  obtain ⟨manifest, result⟩ := outcome
  obtain rfl : manifest = m.finish reading.finished result.size (some digest) := hmanifest
  have hgroups : result.size = result.keys.length := (List.length_map _).symm
  cases hkind : kind.mode.isParallel with
  | false =>
    obtain rfl := Except.ok.inj ((manifest_serial hkind).symm.trans hm)
    refine ⟨rfl, rfl, rfl, hgroups, ⟨digest, hdigest, rfl⟩, fun _ => ⟨rfl, rfl, rfl⟩, ?_⟩
    intro hparallel
    cases hkind.symm.trans hparallel
  | true =>
    obtain ⟨p, hp, hsize, hplan, rfl⟩ := parts_eq_slices hsized hparts hkind
    obtain rfl := Except.ok.inj ((manifest_parallel hkind hp hplan).symm.trans hm)
    refine ⟨rfl, rfl, rfl, hgroups, ⟨digest, hdigest, rfl⟩, ?_, fun _ => ?_⟩
    · intro hserial
      cases hkind.symm.trans hserial
    · have hcut := cutInto_slices positions p.batchSize
      have hfolded : (evenBatches positions.length p.batchSize).length =
          ((evenBatches positions.length p.batchSize).map (·.slice positions)).length :=
        (List.length_map _).symm
      exact ⟨p.batchSize, _, rfl, batchSizeFor_cases hsize, hfolded.trans hcut.length, hfolded,
        hcut, hmakes, rfl⟩

/-- An engine that was made for a configuration has it and the workers that it asks for. The
manifest of every outcome tells what was done, whatever the mode, the style and the schedule; an
error is a trap, and with room for the shards and batches there is none. -/
theorem run_described (h : new o machine config = .ok e) (reading : Reading V) (kind : RunKind)
    (positions : List (Position V)) (hsized : e.Sized positions.length) :
    e.config = config ∧ e.workers = config.parallelism.getD machine.threads ∧
      (∀ outcome, e.run reading kind positions = .ok outcome →
        Describes e kind positions outcome) ∧
      (∀ cause, e.run reading kind positions = .error cause → ∃ t, cause = stopped t) ∧
      (e.HasRoom kind → ∃ outcome, e.run reading kind positions = .ok outcome) := by
  obtain ⟨hconfig, hworkers⟩ := of_new h
  exact ⟨hconfig, hworkers, fun _ => describes_of_run hsized, fun _ => stopped_of_run,
    fun hroom => exists_run_of_hasRoom hsized hroom reading⟩

/-- Three workers, and batches that are derived from the input. -/
def derivingConfig : Config Float :=
  { Config.default with batchSize := none, parallelism := some 3 }

theorem run_described_deriving :
    let kind : RunKind := ⟨.parallelLazy, .inPlaceReduce, .account⟩
    let positions := List.replicate 30 (⟨⟨"x"⟩, ⟨"bond", "debt", 1.0⟩, 1⟩ : Position Float)
    ∃ e : Engine Float, new .stops ⟨8, by decide⟩ derivingConfig = .ok e ∧
      e.Sized positions.length ∧ e.HasRoom kind ∧
      ∃ outcome, e.run quietReading kind positions = .ok outcome ∧
        outcome.manifest.workers = 3 ∧ outcome.manifest.batchSize = some 3 ∧
        outcome.manifest.batches = 10 ∧
        outcome.manifest.groups = outcome.result.keys.length := by
  intro kind positions
  let e : Engine Float := ⟨derivingConfig, ⟨3, by decide⟩, .stops, by decide +kernel⟩
  have hnew : new .stops ⟨8, by decide⟩ derivingConfig = .ok e := by rfl
  have hlength : positions.length = 30 := List.length_replicate
  have hsized : e.Sized positions.length :=
    ⟨by rw [hlength]; decide, fun n hn => nomatch hn⟩
  have hroom : e.HasRoom kind := by
    refine ⟨fun _ hstyle => ?_, fun _ _ => by decide⟩
    cases hstyle
  refine ⟨e, hnew, hsized, hroom, ?_⟩
  obtain ⟨-, -, hdescribes, -, hexists⟩ := run_described hnew quietReading kind positions hsized
  obtain ⟨outcome, houtcome⟩ := hexists hroom
  have h := hdescribes outcome houtcome
  obtain ⟨size, parts, hparallel⟩ := h.parallel rfl
  obtain hconfigured | ⟨-, hsize⟩ := hparallel.configured
  · cases hconfigured
  have hthree : chooseBatchSize .stops 30 3 = .ok ⟨3, by decide⟩ := by rfl
  have hworkers : chooseBatchSize .stops positions.length 3 = .ok size := hsize
  rw [hlength, hthree] at hworkers
  obtain rfl := Except.ok.inj hworkers
  have hbatches := hparallel.batches
  rw [hlength] at hbatches
  exact ⟨outcome, houtcome, hparallel.workers, hparallel.batchSize, hbatches, h.groups⟩

/-- More shards than fit in any memory. -/
def crowdedConfig : Config Float :=
  { Config.default with
    batchSize := some 1, parallelism := some 1, lockShards := 0xffffffffffffffff }

/-- The configuration is valid, and yet a run that shares a map is stopped. -/
theorem run_lacks_room :
    ∃ e : Engine Float, new .wraps ⟨8, by decide⟩ crowdedConfig = .ok e ∧
      e.run quietReading ⟨.parallelEager, .inPlace, .account⟩
        [⟨⟨"x"⟩, ⟨"bond", "debt", 1.0⟩, 1⟩] = .error (.aborted (.trap .capacity)) := by
  have hnew : new .wraps ⟨8, by decide⟩ crowdedConfig =
      .ok ⟨crowdedConfig, ⟨1, by decide⟩, .wraps, by decide +kernel⟩ := by rfl
  exact ⟨_, hnew, run_of_error (by rfl)⟩

end Engine

end Groupwise
