import Groupwise.Batch
import Groupwise.Proofs.Success

/-!
# The batches of a plan

A plan with words is the plan with numbers, batches of one size end to end (`evenBatches`), if there
is room for its batches and full ones end inside the words (`planBatches_of_plannable`). The slices
of such a plan, one after the other, are the input: no record is lost, repeated or moved.
-/

namespace Groupwise

variable {R : Type} {o : Overflow} {records : ℕ} {size : BatchSize}

/-! ### Quotients rounded up -/

/-- The quotient rounded up is the least number of parts that hold everything. -/
lemma ceilDiv_le_iff {n d k : ℕ} (hd : 0 < d) : ceilDiv n d ≤ k ↔ n ≤ k * d := by
  rw [ceilDiv, ← Nat.ceilDiv_eq_add_pred_div, ceilDiv_le_iff_le_mul hd, Nat.mul_comm]

lemma le_ceilDiv_mul (n : Nat) (size : BatchSize) : n ≤ ceilDiv n size.val * size.val :=
  (ceilDiv_le_iff size.pos).1 le_rfl

lemma mul_lt_of_lt_ceilDiv {n i : Nat} {size : BatchSize} (h : i < ceilDiv n size.val) :
    i * size.val < n := by
  rwa [← not_le, ceilDiv_le_iff size.pos, not_le] at h

lemma ceilDiv_le_self (n : ℕ) (size : BatchSize) : ceilDiv n size.val ≤ n :=
  (ceilDiv_le_iff size.pos).2 (Nat.le_mul_of_pos_right n size.pos)

/-! ### Plans with numbers -/

/-- Where a full batch would end, before the end of the input cuts it off. -/
def batchReach (size : BatchSize) (start : ℕ) : ℕ := start + size.val

/-- The batch of a plan with the given number. -/
def planned (records : ℕ) (size : BatchSize) (i : ℕ) : Batch :=
  ⟨⟨i⟩, i * size.val, min (batchReach size (i * size.val)) records⟩

/-- Batches of one size end to end, until they reach the end of the input. -/
def evenBatches (records : ℕ) (size : BatchSize) : List Batch :=
  (List.range (ceilDiv records size.val)).map (planned records size)

@[simp] lemma length_evenBatches (records : ℕ) (size : BatchSize) :
    (evenBatches records size).length = ceilDiv records size.val := by
  simp [evenBatches]

/-- Consecutive pieces of length `s` make up the front of a list. -/
lemma flatten_pieces (s : Nat) (xs : List R) (c : Nat) :
    ((List.range c).map fun i => (xs.drop (i * s)).take s).flatten = xs.take (c * s) := by
  induction c with
  | zero => simp
  | succ c ih =>
    rw [List.range_succ, List.map_append, List.flatten_append, ih, Nat.succ_mul, List.take_add]
    simp

/-- Where the end of the input cuts a batch off, there are no more records. -/
lemma slice_planned (records : List R) (size : BatchSize) (i : ℕ) :
    (planned records.length size i).slice records =
      (records.drop (i * size.val)).take size.val := by
  show (records.drop (i * size.val)).take (planned records.length size i).size = _
  rw [List.take_eq_take_iff]
  simp only [planned, Batch.size, batchReach, List.length_drop]
  omega

lemma slices_evenBatches (records : List R) (size : BatchSize) :
    (evenBatches records.length size).map (·.slice records) =
      (List.range (ceilDiv records.length size.val)).map fun i =>
        (records.drop (i * size.val)).take size.val := by
  rw [evenBatches, List.map_map]
  exact List.map_congr_left fun i _ => slice_planned records size i

theorem flatten_slices (records : List R) (size : BatchSize) :
    ((evenBatches records.length size).map (·.slice records)).flatten = records := by
  rw [slices_evenBatches, flatten_pieces,
    List.take_of_length_le (le_ceilDiv_mul records.length size)]

/-- Whatever the batches are, their slices have no other records than the input. -/
lemma flatten_slices_subset (batches : List Batch) (records : List R) :
    (batches.map (·.slice records)).flatten ⊆ records := by
  intro r hr
  obtain ⟨_, hslice, hr⟩ := List.mem_flatten.1 hr
  obtain ⟨b, -, rfl⟩ := List.mem_map.1 hslice
  exact List.mem_of_mem_drop (List.mem_of_mem_take hr)

/-! ### Plans with words -/

lemma Overflow.word_of_lt {trap : Trap} {n : ℕ} (h : n < wordBound) : o.word trap n = .ok n :=
  if_pos h

/-- Full batches of all the records of an input end inside the words. -/
def Fits (records : ℕ) (size : BatchSize) : Prop := ceilDiv records size.val * size.val < wordBound

instance : Decidable (Fits records size) := inferInstanceAs (Decidable (_ < _))

lemma Fits.batchReach_lt (h : Fits records size) {i : ℕ} (hi : i < ceilDiv records size.val) :
    batchReach size (i * size.val) < wordBound := by
  have hle : (i + 1) * size.val ≤ ceilDiv records size.val * size.val := Nat.mul_le_mul_right _ hi
  rw [Nat.succ_mul] at hle
  exact lt_of_le_of_lt hle h

/-- The batches of a plan, made one by one once there is room for them. -/
lemma planBatches_eq (h : ceilDiv records size.val ≤ batchCapacity) :
    planBatches o records size = do
      let batches ← (List.range (ceilDiv records size.val)).mapM fun i =>
        batchOn o records size i (i * size.val)
      return ⟨records, size.val, batches⟩ := by
  have hstarts : (batchStarts records size).zipIdx =
      (List.range (ceilDiv records size.val)).map fun i => (i * size.val, i) := by
    refine List.ext_getElem (by simp [batchStarts]) fun i _ _ => ?_
    simp [batchStarts]
  rw [planBatches, if_neg (not_lt.2 h), hstarts, List.mapM_map]
  rfl

lemma batchOn_of_lt {i : ℕ} (h : batchReach size (i * size.val) < wordBound) :
    batchOn o records size i (i * size.val) = .ok (planned records size i) := by
  have hadd : o.add (i * size.val) size.val = .ok (batchReach size (i * size.val)) :=
    Overflow.word_of_lt h
  rw [batchOn, hadd]
  rfl

/-- There is room for the batches of a plan, and full ones end inside the words. -/
def Plannable (records : ℕ) (size : BatchSize) : Prop :=
  ceilDiv records size.val ≤ batchCapacity ∧ Fits records size

instance : Decidable (Plannable records size) := inferInstanceAs (Decidable (_ ∧ _))

/-- Plans that overflow nowhere are plans with numbers. -/
theorem planBatches_of_plannable (h : Plannable records size) :
    planBatches o records size = .ok ⟨records, size.val, evenBatches records size⟩ := by
  have hbatches : (List.range (ceilDiv records size.val)).mapM
      (fun i => batchOn o records size i (i * size.val)) = .ok (evenBatches records size) :=
    mapM_eq_ok fun i hi => batchOn_of_lt (h.2.batchReach_lt (List.mem_range.1 hi))
  rw [planBatches_eq h.1, hbatches]
  rfl

/-- A batch that is not the first one begins a whole size behind another one. -/
lemma batchReach_lt (hrecords : records ≤ 2 ^ 63) (hsize : size.val < wordBound) {i : ℕ}
    (hi : i < ceilDiv records size.val) : batchReach size (i * size.val) < wordBound := by
  have hlt := mul_lt_of_lt_ceilDiv hi
  rw [batchReach]
  cases i with
  | zero => simpa using hsize
  | succ i =>
    have hword : wordBound = 2 ^ 64 := rfl
    rw [Nat.succ_mul] at hlt ⊢
    omega

lemma fits_of_le (hrecords : records ≤ 2 ^ 63) (hsize : size.val < wordBound) :
    Fits records size := by
  rw [Fits]
  cases hcount : ceilDiv records size.val with
  | zero => rw [Nat.zero_mul]; decide
  | succ c =>
    rw [Nat.succ_mul]
    exact batchReach_lt hrecords hsize (by omega)

/-- A list of records of 24 bytes and more is never too long to plan its batches. -/
lemma plannable_of_le (hrecords : records ≤ batchCapacity) (hsize : size.val < wordBound) :
    Plannable records size :=
  ⟨(ceilDiv_le_self records size).trans hrecords,
    fits_of_le (hrecords.trans (by decide)) hsize⟩

end Groupwise
