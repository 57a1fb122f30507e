import Groupwise.KeyPool
import Groupwise.Position
import Mathlib

/-!
# What a pool holds

A pool into which values were put one after the other holds the first of all values that are equal
(`KeyPool.Holds`). Putting in one more value gives back the first value that equals it
(`KeyPool.Holds.put`), and the pool has as many entries as there were distinct values
(`KeyPool.Holds.size_eq_card`).

A pool only grows at its end (`KeyPool.prefix_puts`), so what it gives for a value it gives from
then on (`KeyPool.get?_mono`). Hence all calls with equal values give back one instance, that of the
first of them (`KeyPool.puts_canonical`).
-/

namespace Groupwise

namespace KeyPool

variable {α : Type} [BEq α] {pool : KeyPool α} {as : List α} {a e : α}

/-! ### Putting in a value -/

lemma get?_eq (pool : KeyPool α) (a : α) :
    pool.get? a =
      (pool.entries.find? (· == a)).map (⟨pool.entries.findIdx (· == a), ·⟩) := by
  rw [get?, List.find?_eq_getElem?_findIdx]

lemma put_of_find?_eq_some (h : pool.entries.find? (· == a) = some e) :
    pool.put a = (⟨pool.entries.findIdx (· == a), e⟩, pool) := by
  rw [put, get?_eq, h]
  rfl

lemma put_of_find?_eq_none (h : pool.entries.find? (· == a) = none) :
    pool.put a = (⟨pool.size, a⟩, ⟨pool.entries ++ [a]⟩) := by
  rw [put, get?_eq, h]
  rfl

/-- A value is found in the pool, or it is new. -/
lemma put_cases (pool : KeyPool α) (a : α) :
    (∃ p, p.value ∈ pool.entries ∧ (p.value == a) = true ∧ pool.put a = (p, pool)) ∨
      (∀ e ∈ pool.entries, (e == a) = false) ∧
        pool.put a = (⟨pool.size, a⟩, ⟨pool.entries ++ [a]⟩) := by
  cases hfind : pool.entries.find? (· == a) with
  | some e =>
    exact .inl ⟨_, List.mem_of_find?_eq_some hfind, List.find?_some (p := (· == a)) hfind,
      put_of_find?_eq_some hfind⟩
  | none => exact .inr ⟨by simpa using hfind, put_of_find?_eq_none hfind⟩

lemma value_put [LawfulBEq α] (pool : KeyPool α) (a : α) : (pool.put a).1.value = a := by
  obtain ⟨p, -, hp, hput⟩ | ⟨-, hput⟩ := put_cases pool a
  · rw [hput]
    exact eq_of_beq hp
  · rw [hput]

/-! ### First values -/

/-- The pool holds the first of all values of `as` that are equal. -/
structure Holds (pool : KeyPool α) (as : List α) : Prop where
  distinct : pool.entries.Pairwise fun a b => (a == b) = false
  find : ∀ a, pool.entries.find? (· == a) = as.find? (· == a)

lemma holds_empty : (empty : KeyPool α).Holds [] := ⟨.nil, fun _ => rfl⟩

namespace Holds

variable [EquivBEq α]

/-- One more value comes back as the first one that equals it. -/
theorem put (h : pool.Holds as) (a : α) :
    (pool.put a).2.Holds (as ++ [a]) ∧
      (as ++ [a]).find? (· == a) = some (pool.put a).1.value := by
  cases hfind : pool.entries.find? (· == a) with
  | some e =>
    have hfirst : as.find? (· == a) = some e := by rw [← h.find, hfind]
    rw [put_of_find?_eq_some hfind]
    refine ⟨⟨h.distinct, fun b => ?_⟩, by rw [List.find?_append, hfirst, Option.some_or]⟩
    rw [h.find, List.find?_append]
    cases hab : a == b with
    | false => simp [hab]
    | true =>
      have hfirst' : as.find? (· == b) = some e := by
        rw [← hfirst]
        exact congrArg (as.find? ·) (funext fun _ => (BEq.congr_right hab).symm)
      rw [hfirst', Option.some_or]
  | none =>
    have hnone : as.find? (· == a) = none := by rw [← h.find, hfind]
    rw [put_of_find?_eq_none hfind]
    refine ⟨⟨?_, fun b => ?_⟩, ?_⟩
    · rw [List.pairwise_append]
      refine ⟨h.distinct, List.pairwise_singleton _ _, fun e he b hb => ?_⟩
      rw [List.mem_singleton.1 hb]
      simpa using List.find?_eq_none.1 hfind e he
    · rw [List.find?_append, List.find?_append, h.find]
    · rw [List.find?_append, hnone, Option.none_or, List.find?_cons_of_pos (by simp)]

/-! ### Counting -/

/-- The pool and what was put into it represent the same classes of values. -/
lemma exists_mem_of_find?_eq {as bs : List α}
    (h : ∀ a, as.find? (· == a) = bs.find? (· == a)) (ha : a ∈ as) : ∃ b ∈ bs, (b == a) = true := by
  have hsome : (as.find? (· == a)).isSome := List.find?_isSome.2 ⟨a, ha, BEq.rfl⟩
  rw [h] at hsome
  exact List.find?_isSome.1 hsome

/-- A pool has as many entries as there were distinct values. -/
theorem size_eq_card (h : pool.Holds as) {β : Type} [DecidableEq β] {f : α → β}
    (hf : ∀ a b, (a == b) = true ↔ f a = f b) : pool.size = (as.map f).toFinset.card := by
  have hnodup : (pool.entries.map f).Nodup := by
    rw [List.nodup_iff_pairwise_ne, List.pairwise_map]
    refine h.distinct.imp fun hab heq => ?_
    rw [(hf _ _).2 heq] at hab
    cases hab
  have hsame : (pool.entries.map f).toFinset = (as.map f).toFinset := by
    ext x
    simp only [List.mem_toFinset, List.mem_map]
    constructor
    · rintro ⟨e, he, rfl⟩
      obtain ⟨a, ha, hae⟩ := exists_mem_of_find?_eq h.find he
      exact ⟨a, ha, (hf a e).1 hae⟩
    · rintro ⟨a, ha, rfl⟩
      obtain ⟨e, he, hea⟩ := exists_mem_of_find?_eq (fun a => (h.find a).symm) ha
      exact ⟨e, he, (hf e a).1 hea⟩
  rw [← hsame, List.toFinset_card_of_nodup hnodup, List.length_map, size]

end Holds

/-! ### Sequences of calls -/

/-- What comes back for values that are put in one after the other, and the pool after them. -/
def puts (pool : KeyPool α) : List α → List (Pooled α) × KeyPool α
  | [] => ([], pool)
  | a :: as =>
    let (p, pool) := pool.put a
    let (ps, pool) := pool.puts as
    (p :: ps, pool)

lemma puts_cons (pool : KeyPool α) (a : α) (as : List α) :
    pool.puts (a :: as) =
      ((pool.put a).1 :: ((pool.put a).2.puts as).1, ((pool.put a).2.puts as).2) := rfl

@[simp] lemma length_puts (pool : KeyPool α) (as : List α) :
    (pool.puts as).1.length = as.length := by
  induction as generalizing pool with
  | nil => rfl
  | cons a as ih => rw [puts_cons, List.length_cons, List.length_cons, ih]

/-! ### What stays as it is -/

lemma prefix_put (pool : KeyPool α) (a : α) : pool.entries <+: (pool.put a).2.entries := by
  obtain ⟨p, -, -, hput⟩ | ⟨-, hput⟩ := pool.put_cases a
  · rw [hput]
  · rw [hput]
    exact List.prefix_append _ _

/-- Entries are neither replaced nor removed: new ones come behind those that are there. -/
lemma prefix_puts (pool : KeyPool α) (as : List α) :
    pool.entries <+: (pool.puts as).2.entries := by
  induction as generalizing pool with
  | nil => exact List.prefix_refl _
  | cons a as ih => exact (pool.prefix_put a).trans (ih _)

/-- The instance for a value is an entry that equals it, at the place of its number. -/
lemma getElem?_of_get? {p : Pooled α} (h : pool.get? a = some p) :
    pool.entries[p.instanceId]? = some p.value ∧ (p.value == a) = true := by
  obtain ⟨e, he, rfl⟩ := Option.map_eq_some_iff.1 h
  rw [← List.find?_eq_getElem?_findIdx] at he
  exact ⟨by rw [← he, List.find?_eq_getElem?_findIdx],
    List.find?_some (p := (· == a)) he⟩

/-- A pool with further entries gives the same instance for a value. -/
lemma get?_mono {pool' : KeyPool α} (hgrown : pool.entries <+: pool'.entries)
    {p : Pooled α} (h : pool.get? a = some p) : pool'.get? a = some p := by
  obtain ⟨new, hnew⟩ := hgrown
  obtain ⟨e, he, rfl⟩ := Option.map_eq_some_iff.1 h
  have hlt : pool.entries.findIdx (· == a) < pool.entries.length :=
    (List.getElem?_eq_some_iff.1 he).1
  rw [get?, ← hnew, List.findIdx_append, if_pos hlt, List.getElem?_append_left hlt, he]
  rfl

/-! ### What is found -/

lemma Holds.find?_of_get? (h : pool.Holds as) {p : Pooled α} (hget : pool.get? a = some p) :
    as.find? (· == a) = some p.value := by
  rw [get?_eq] at hget
  obtain ⟨e, he, rfl⟩ := Option.map_eq_some_iff.1 hget
  rw [← h.find, he]

lemma Holds.contains_eq (h : pool.Holds as) (a : α) : pool.contains a = as.any (· == a) := by
  rw [contains, get?_eq, Option.isSome_map, h.find, List.isSome_find?]

section

variable [EquivBEq α]

/-- A value that was put in is found as the instance that came back for it. -/
lemma get?_put (pool : KeyPool α) (a : α) : (pool.put a).2.get? a = some (pool.put a).1 := by
  cases hfind : pool.entries.find? (· == a) with
  | some e => rw [put_of_find?_eq_some hfind, get?_eq, hfind, Option.map_some]
  | none =>
    have hlast : pool.entries.findIdx (· == a) = pool.entries.length := by
      rw [List.findIdx_eq_length]
      simpa using hfind
    rw [put_of_find?_eq_none hfind, get?_eq, List.find?_append, hfind, List.findIdx_append, hlast,
      if_neg (lt_irrefl _)]
    simp [size]

lemma get?_of_mem_zip {as : List α} {p : Pooled α} (h : (a, p) ∈ as.zip (pool.puts as).1) :
    (pool.puts as).2.get? a = some p := by
  induction as generalizing pool with
  | nil => cases h
  | cons b as ih =>
    rw [puts_cons, List.zip_cons_cons, List.mem_cons] at h
    rcases h with h | h
    · obtain ⟨rfl, rfl⟩ := Prod.mk.inj h
      exact get?_mono (prefix_puts _ as) (pool.get?_put a)
    · exact ih h

lemma get?_congr (pool : KeyPool α) {a b : α} (h : (a == b) = true) :
    pool.get? a = pool.get? b := by
  simp only [get?, BEq.congr_right h]

lemma Holds.puts (h : pool.Holds as) (bs : List α) : (pool.puts bs).2.Holds (as ++ bs) := by
  induction bs generalizing pool as with
  | nil => rwa [List.append_nil]
  | cons b bs ih =>
    rw [puts_cons, List.append_cons]
    exact ih (h.put b).1

lemma holds_puts (as : List α) : (empty.puts as).2.Holds as := holds_empty.puts as

/-- One number is that of one entry, so values that share an instance are equal. -/
lemma beq_of_instanceId_eq {b : α} {p q : Pooled α} (hp : pool.get? a = some p)
    (hq : pool.get? b = some q) (hid : p.instanceId = q.instanceId) : (a == b) = true := by
  obtain ⟨hpe, hpa⟩ := getElem?_of_get? hp
  obtain ⟨hqe, hqb⟩ := getElem?_of_get? hq
  rw [hid, hqe, Option.some.injEq] at hpe
  exact BEq.trans (BEq.symm hpa) (hpe ▸ hqb)

/-- What a pool finds came back from a call with an equal value. -/
lemma exists_mem_zip {p : Pooled α} (hget : (empty.puts as).2.get? a = some p) :
    ∃ b, (b, p) ∈ as.zip (empty.puts as).1 ∧ (b == a) = true := by
  have hfind := (holds_puts as).find?_of_get? hget
  have hmem : p.value ∈ as := List.mem_of_find?_eq_some hfind
  have hpa : (p.value == a) = true := List.find?_some (p := (· == a)) hfind
  rw [← List.map_fst_zip (Nat.le_of_eq (length_puts empty as).symm)] at hmem
  obtain ⟨⟨b, q⟩, hbq, hb⟩ := List.mem_map.1 hmem
  obtain rfl : b = p.value := hb
  have hq := get?_of_mem_zip hbq
  rw [get?_congr _ hpa, hget] at hq
  exact ⟨p.value, Option.some.inj hq ▸ hbq, hpa⟩

/-! ### Canonical instances -/

/-- Equal values are in one class. -/
def classes (α : Type) [BEq α] [EquivBEq α] : Setoid α where
  r a b := (a == b) = true
  iseqv := ⟨fun _ => BEq.rfl, BEq.symm, BEq.trans⟩

instance : DecidableRel (classes α).r :=
  fun a b => inferInstanceAs (Decidable ((a == b) = true))

/-- A pool gives back one instance for all equal values, different ones for values that are not
equal, and its value is the first of the equal ones. What it holds it keeps, and it finds exactly
the values that equal one that was put in, as the instance that came back for that one. Its size is
the number of the classes of equal values that were put in. -/
theorem puts_canonical (as : List α) :
    let ps : List (Pooled α) := (KeyPool.empty.puts as).1
    let pool : KeyPool α := (KeyPool.empty.puts as).2
    ps.length = as.length ∧
      (∀ a p, (a, p) ∈ as.zip ps → as.find? (· == a) = some p.value) ∧
      (∀ a p b q, (a, p) ∈ as.zip ps → (b, q) ∈ as.zip ps →
        if a == b then p = q else p.instanceId ≠ q.instanceId) ∧
      (∀ bs, pool.entries <+: (pool.puts bs).2.entries ∧
        ∀ a p, pool.get? a = some p → (pool.puts bs).2.get? a = some p) ∧
      (∀ a, pool.contains a = as.any (· == a)) ∧
      (∀ a p, pool.get? a = some p ↔ ∃ b, (b, p) ∈ as.zip ps ∧ (b == a) = true) ∧
      pool.size = (as.map (Quotient.mk (classes α))).toFinset.card := by
  intro ps pool
  have hholds : pool.Holds as := holds_puts as
  have hfound : ∀ a p, (a, p) ∈ as.zip ps → pool.get? a = some p := fun a p => get?_of_mem_zip
  refine ⟨length_puts empty as, fun a p hp => hholds.find?_of_get? (hfound a p hp),
    fun a p b q hp hq => ?_, fun bs => ?_, hholds.contains_eq, fun a p => ⟨exists_mem_zip, ?_⟩,
    hholds.size_eq_card fun a b => (Quotient.eq (r := classes α)).symm⟩
  · split_ifs with hab
    · have hpq := hfound a p hp
      rw [pool.get?_congr hab, hfound b q hq] at hpq
      exact (Option.some.inj hpq).symm
    · exact fun hid => hab (beq_of_instanceId_eq (hfound a p hp) (hfound b q hq) hid)
  · exact ⟨prefix_puts pool bs, fun a p => get?_mono (prefix_puts pool bs)⟩
  · rintro ⟨b, hb, hba⟩
    rw [← pool.get?_congr hba]
    exact hfound b p hb

/-- Products of one name are equal: the third one comes back as the first one, with its category and
its price. -/
theorem puts_canonical_products :
    let p : Product Int := ⟨"001", "A", 5⟩
    let p' : Product Int := ⟨"001", "B", 50⟩
    let q : Product Int := ⟨"002", "A", 7⟩
    let ps := (empty.puts [p, q, p']).1
    let pool := (empty.puts [p, q, p']).2
    (p', ⟨0, p⟩) ∈ [p, q, p'].zip ps ∧ (q, ⟨1, q⟩) ∈ [p, q, p'].zip ps ∧
      [p, q, p'].find? (· == p') = some p ∧ pool.get? p' = some ⟨0, p⟩ ∧
      pool.contains q = true ∧
      pool.size = ([p, q, p'].map (Quotient.mk (classes (Product Int)))).toFinset.card := by
  intro p p' q ps pool
  have hp : (p', ⟨0, p⟩) ∈ [p, q, p'].zip ps := .tail _ (.tail _ (.head _))
  have hq : (q, ⟨1, q⟩) ∈ [p, q, p'].zip ps := .tail _ (.head _)
  obtain ⟨-, hfirst, -, -, hcontains, hget, hsize⟩ := puts_canonical [p, q, p']
  exact ⟨hp, hq, hfirst p' _ hp, (hget p' _).2 ⟨p', hp, rfl⟩, hcontains q, hsize⟩

end

end KeyPool

end Groupwise
