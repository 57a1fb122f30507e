import Groupwise.Aggregate
import Mathlib

/-!
# What the operations on maps do to one key

A map is observed at a key `j`: `find?` gives the key it holds for the class of `j` and its
value, `get?` the value alone. Each operation has one equation for the observation at `j`, so that
nothing below has to look into the list of entries. A merge is, at every key, the merge of what
the two maps hold there (`get?_merge`), in an order that depends on their sizes.

Two maps with the same observations have the same entries up to their order, and two maps with
keys for the same classes have the same size.
-/

namespace Groupwise

variable {K A B : Type} [BEq K]

/-! ### Entry lists -/

namespace Entries

lemma mem_of_find? {es : List (K × A)} {k : K} {e : K × A} (h : find? es k = some e) :
    e ∈ es ∧ (e.1 == k) = true := by
  rw [find?] at h
  exact ⟨List.mem_of_find?_eq_some h, by simpa using List.find?_some h⟩

lemma find?_snoc (es : List (K × A)) (k j : K) (a : A) :
    find? (es ++ [(k, a)]) j = (find? es j).or (if k == j then some (k, a) else none) := by
  simp only [find?, List.find?_append, List.find?_singleton]

lemma find?_map_value (f : A → B) (es : List (K × A)) (j : K) :
    find? (es.map fun e => (e.1, f e.2)) j = (find? es j).map fun e => (e.1, f e.2) := by
  simp [find?, List.find?_map]

variable [EquivBEq K]

lemma find?_congr (es : List (K × A)) {j l : K} (h : (j == l) = true) :
    find? es j = find? es l := by
  simp only [find?, BEq.congr_right h]

lemma find?_modify (k : K) (f : A → A) (es : List (K × A)) (j : K) :
    find? (modify k f es) j =
      if k == j then (find? es j).map fun e => (e.1, f e.2) else find? es j := by
  induction es with
  | nil => simp [modify, find?]
  | cons e es ih =>
    simp only [modify]
    by_cases hek : e.1 == k
    · -- the entry that changes: it answers for `j` exactly if `k` does
      have hj : (e.1 == j) = (k == j) := BEq.congr_left hek
      by_cases hkj : k == j <;> simp [find?, hek, hj, hkj]
    · rw [if_neg hek]
      by_cases hej : e.1 == j
      · have hkj : (k == j) = false :=
          BEq.neq_of_neq_of_beq (BEq.symm_false (by simpa using hek)) hej
        simp [find?, hej, hkj]
      · simp only [find?, List.find?_cons, hej] at ih ⊢
        exact ih

lemma find?_erase (es : List (K × A)) (k j : K) :
    find? (erase es k) j = if k == j then none else find? es j := by
  by_cases hkj : k == j
  · rw [if_pos hkj, ← find?_congr _ hkj, find?_erase_self]
  · rw [if_neg hkj]
    simp only [find?, erase, List.find?_filter]
    congr 1
    funext e
    by_cases hej : e.1 == j
    · have hek : (e.1 == k) = false :=
        BEq.neq_of_beq_of_neq hej (BEq.symm_false (by simpa using hkj))
      simp [hej, hek]
    · simp [hej]

/-- In a list of distinct keys an entry is found under every key of its class. -/
lemma find?_eq_some_iff {es : List (K × A)} (h : Distinct es) {k : K} {e : K × A} :
    find? es k = some e ↔ e ∈ es ∧ (e.1 == k) = true := by
  constructor
  · exact mem_of_find?
  · rintro ⟨he, hek⟩
    induction es with
    | nil => simp at he
    | cons d es ih =>
      obtain ⟨hd, hes⟩ := List.pairwise_cons.1 h
      rcases List.mem_cons.1 he with rfl | he
      · simp [find?, hek]
      · have hdk : (d.1 == k) = false := BEq.neq_of_neq_of_beq (hd e he) hek
        simpa [find?, hdk] using ih hes he

lemma Distinct.nodup {es : List (K × A)} (h : Distinct es) : es.Nodup := by
  refine h.imp ?_
  rintro e f hef rfl
  simp at hef

lemma countP_eq {es : List (K × A)} (h : Distinct es) (k : K) :
    es.countP (·.1 == k) = if (find? es k).isSome then 1 else 0 := by
  induction es with
  | nil => rfl
  | cons e es ih =>
    obtain ⟨he, hes⟩ := List.pairwise_cons.1 h
    rw [List.countP_cons, ih hes]
    cases hek : e.1 == k with
    | true =>
      have hrest : find? es k = none := by
        rw [find?_eq_none]
        exact fun d hd => BEq.neq_of_neq_of_beq (BEq.symm_false (he d hd)) hek
      rw [hrest]
      simp [find?, hek]
    | false =>
      have hrest : find? (e :: es) k = find? es k := List.find?_cons_of_neg (by simp [hek])
      rw [hrest, if_neg Bool.false_ne_true, add_zero]

end Entries

/-! ### Observing a map -/

namespace GroupMap

lemma get?_eq (g : GroupMap K A) (j : K) : g.get? j = (g.find? j).map Prod.snd := rfl

lemma contains_eq (g : GroupMap K A) (j : K) : g.contains j = (g.find? j).isSome := rfl

lemma size_eq_length_keys (g : GroupMap K A) : g.size = g.keys.length := by simp [size, keys]

lemma contains_eq_isSome_get? (g : GroupMap K A) (j : K) : g.contains j = (g.get? j).isSome := by
  simp [contains_eq, get?_eq]

@[simp] lemma find?_empty (j : K) : (∅ : GroupMap K A).find? j = none := rfl

@[simp] lemma get?_empty (j : K) : (∅ : GroupMap K A).get? j = none := rfl

@[simp] lemma get?_mapValues (f : A → B) (g : GroupMap K A) (j : K) :
    (g.mapValues f).get? j = (g.get? j).map f := by
  simp only [get?_eq, find?, mapValues, Entries.find?_map_value, Option.map_map]
  rfl

lemma find?_insertNew {g : GroupMap K A} {k : K} (h : g.find? k = none) (a : A) (j : K) :
    (g.insertNew k a).find? j =
      (g.find? j).or (if k == j then some (k, a) else none) := by
  rw [GroupMap.find?, entries_insertNew h, Entries.find?_snoc]
  rfl

/-- The map after one record, when neither its key nor the starting value has effects. -/
def upsert (g : GroupMap K A) (k : K) (zero : A) (f : A → A) : GroupMap K A :=
  (if g.contains k then g else g.insertNew k zero).modify k f

lemma upsert_of_contains {g : GroupMap K A} {k : K} (h : g.contains k = true) (zero : A)
    (f : A → A) : g.upsert k zero f = g.modify k f := by
  simp [upsert, h]

lemma upsert_of_not_contains {g : GroupMap K A} {k : K} (h : g.contains k = false) (zero : A)
    (f : A → A) : g.upsert k zero f = (g.insertNew k zero).modify k f := by
  simp [upsert, h]

variable [EquivBEq K]

lemma find?_congr (g : GroupMap K A) {j l : K} (h : (j == l) = true) :
    g.find? j = g.find? l := Entries.find?_congr g.entries h

lemma get?_congr (g : GroupMap K A) {j l : K} (h : (j == l) = true) : g.get? j = g.get? l := by
  rw [get?_eq, get?_eq, g.find?_congr h]

lemma contains_congr (g : GroupMap K A) {j l : K} (h : (j == l) = true) :
    g.contains j = g.contains l := by
  rw [contains_eq, contains_eq, g.find?_congr h]

lemma find?_eq_some_iff {g : GroupMap K A} {k : K} {e : K × A} :
    g.find? k = some e ↔ e ∈ g.entries ∧ (e.1 == k) = true :=
  Entries.find?_eq_some_iff g.distinct

lemma mem_entries_iff {g : GroupMap K A} {e : K × A} : e ∈ g.entries ↔ g.find? e.1 = some e := by
  simp [find?_eq_some_iff]

lemma contains_iff {g : GroupMap K A} {j : K} :
    g.contains j = true ↔ ∃ k ∈ g.keys, (k == j) = true := by
  rw [contains_eq, Option.isSome_iff_exists]
  simp [find?_eq_some_iff, keys]

lemma contains_of_mem {g : GroupMap K A} {e : K × A} (h : e ∈ g.entries) :
    g.contains e.1 = true := contains_iff.2 ⟨e.1, List.mem_map_of_mem h, BEq.rfl⟩

lemma find?_modify (g : GroupMap K A) (k : K) (f : A → A) (j : K) :
    (g.modify k f).find? j =
      if k == j then (g.find? j).map fun e => (e.1, f e.2) else g.find? j :=
  Entries.find?_modify k f g.entries j

lemma get?_replace (g : GroupMap K A) (k : K) (a : A) (j : K) :
    (g.replace k a).get? j = if k == j then some a else g.get? j := by
  rw [get?_eq, find?, entries_replace, Entries.find?_snoc, Entries.find?_erase]
  by_cases hkj : k == j <;> simp [hkj, get?_eq, find?]

lemma find?_upsert (g : GroupMap K A) (k : K) (zero : A) (f : A → A) (j : K) :
    (g.upsert k zero f).find? j =
      if k == j then some (((g.find? k).getD (k, zero)).1, f ((g.find? k).getD (k, zero)).2)
      else g.find? j := by
  rw [upsert, find?_modify]
  by_cases hkj : k == j
  · rw [if_pos hkj, if_pos hkj, ← find?_congr _ hkj, contains_eq]
    cases hk : g.find? k with
    | none => simp [find?_insertNew hk, hk]
    | some e => simp [hk]
  · rw [if_neg hkj, if_neg hkj, contains_eq]
    cases hk : g.find? k with
    | none => simp [find?_insertNew hk, hkj]
    | some e => simp

lemma get?_upsert (g : GroupMap K A) (k : K) (zero : A) (f : A → A) (j : K) :
    (g.upsert k zero f).get? j =
      if k == j then some (f ((g.get? k).getD zero)) else g.get? j := by
  rw [get?_eq, find?_upsert, get?_eq, get?_eq]
  by_cases hkj : k == j
  · rw [if_pos hkj, if_pos hkj]
    cases g.find? k <;> rfl
  · rw [if_neg hkj, if_neg hkj]

lemma contains_upsert (g : GroupMap K A) (k : K) (zero : A) (f : A → A) (j : K) :
    (g.upsert k zero f).contains j = (k == j || g.contains j) := by
  rw [contains_eq, find?_upsert, contains_eq]
  by_cases hkj : k == j <;> simp [hkj]

omit [EquivBEq K] in
lemma keys_upsert (g : GroupMap K A) (k : K) (zero : A) (f : A → A) :
    (g.upsert k zero f).keys = if g.contains k then g.keys else g.keys ++ [k] := by
  rw [upsert, keys_modify]
  split_ifs with hk
  · rfl
  · have hnone : g.find? k = none := by simpa [contains_eq] using hk
    simp [keys, entries_insertNew hnone]

omit [EquivBEq K] in
lemma size_upsert (g : GroupMap K A) (k : K) (zero : A) (f : A → A) :
    (g.upsert k zero f).size = if g.contains k then g.size else g.size + 1 := by
  simp only [size_eq_length_keys, keys_upsert]
  split_ifs <;> simp

/-! ### Comparing maps -/

/-- The same entries, in whatever order. -/
def SameEntries (g h : GroupMap K A) : Prop := ∀ k, g.find? k = h.find? k

namespace SameEntries

variable {g h : GroupMap K A}

omit [EquivBEq K] in
lemma get?_eq (hgh : SameEntries g h) (k : K) : g.get? k = h.get? k := by
  rw [GroupMap.get?_eq, hgh k, GroupMap.get?_eq]

omit [EquivBEq K] in
lemma contains_eq (hgh : SameEntries g h) (k : K) : g.contains k = h.contains k := by
  rw [GroupMap.contains_eq, hgh k, GroupMap.contains_eq]

lemma perm (hgh : SameEntries g h) : g.entries.Perm h.entries := by
  refine (List.perm_ext_iff_of_nodup g.distinct.nodup h.distinct.nodup).2 fun e => ?_
  rw [mem_entries_iff, mem_entries_iff, hgh]

/-- How the entries are arranged does not matter to what is found. -/
lemma of_perm (hgh : g.entries.Perm h.entries) : SameEntries g h := by
  intro k
  refine Option.ext fun e => ?_
  rw [find?_eq_some_iff, find?_eq_some_iff, hgh.mem_iff]

lemma size_eq (hgh : SameEntries g h) : g.size = h.size := hgh.perm.length_eq

end SameEntries

/-- A map that has a key for every class of another one is at least as large: each entry of the
smaller map is sent to the entry of its class. -/
lemma size_le_of_contains {g : GroupMap K A} {h : GroupMap K B}
    (hgh : ∀ k, g.contains k = true → h.contains k = true) : g.size ≤ h.size := by
  have hfound : ∀ e ∈ g.entries, ∃ d, h.find? e.1 = some d := by
    intro e he
    exact Option.isSome_iff_exists.1 (hgh e.1 (contains_of_mem he))
  have hnodup : (g.entries.map fun e => h.find? e.1).Nodup := by
    rw [List.Nodup, List.pairwise_map]
    refine g.distinct.imp_of_mem fun {e f} he _ hef heq => ?_
    obtain ⟨d, hd⟩ := hfound e he
    have hde := (find?_eq_some_iff.1 hd).2
    have hdf := (find?_eq_some_iff.1 (heq ▸ hd)).2
    simp [BEq.trans (BEq.symm hde) hdf] at hef
  have hsub : (g.entries.map fun e => h.find? e.1) ⊆ h.entries.map some := by
    intro o ho
    obtain ⟨e, he, rfl⟩ := List.mem_map.1 ho
    obtain ⟨d, hd⟩ := hfound e he
    rw [hd]
    exact List.mem_map_of_mem (find?_eq_some_iff.1 hd).1
  simpa [size] using (hnodup.subperm hsub).length_le

lemma size_eq_of_contains {g : GroupMap K A} {h : GroupMap K B}
    (hgh : ∀ k, g.contains k = h.contains k) : g.size = h.size :=
  le_antisymm (size_le_of_contains fun k hk => hgh k ▸ hk)
    (size_le_of_contains fun k hk => (hgh k).symm ▸ hk)

/-! ### Counting -/

lemma countP_entries (g : GroupMap K A) (k : K) :
    g.entries.countP (·.1 == k) = if g.contains k then 1 else 0 :=
  Entries.countP_eq g.distinct k

/-- Each record whose key is in the map is counted under one entry. -/
lemma sum_countP {R : Type} {g : GroupMap K A} {key : R → K} {rs : List R}
    (h : ∀ r ∈ rs, g.contains (key r) = true) :
    (g.entries.map fun e => rs.countP (e.1 == key ·)).sum = rs.length := by
  have hone : ∀ es : List (K × A), ∀ k,
      (es.map fun e => if e.1 == k then 1 else 0).sum = es.countP (·.1 == k) := by
    intro es k
    induction es with
    | nil => rfl
    | cons e es ih => rw [List.map_cons, List.sum_cons, ih, List.countP_cons, add_comm]
  induction rs with
  | nil => simp
  | cons r rs ih =>
    simp only [List.countP_cons, List.sum_map_add]
    rw [ih fun s hs => h s (by simp [hs]), hone, countP_entries, h r (by simp), if_pos rfl,
      List.length_cons]

/-! ### Merging -/

variable [Merge A]

lemma get?_absorb (g : GroupMap K A) (k : K) (a : A) (j : K) :
    (g.absorb k a).get? j =
      if k == j then Option.merge Merge.merge (g.get? j) (some a) else g.get? j := by
  rw [absorb, get?_replace]
  by_cases hkj : k == j
  · rw [if_pos hkj, if_pos hkj, ← g.get?_congr hkj]
    cases g.get? k <;> rfl
  · rw [if_neg hkj, if_neg hkj]

/-- Absorbing the entries of distinct keys: each key meets its own entry only. -/
lemma get?_foldl_absorb {es : List (K × A)} (h : Entries.Distinct es) (g : GroupMap K A) (j : K) :
    (es.foldl (fun g e => g.absorb e.1 e.2) g).get? j =
      Option.merge Merge.merge (g.get? j) ((Entries.find? es j).map Prod.snd) := by
  induction es generalizing g with
  | nil => simp [Entries.find?]
  | cons e es ih =>
    obtain ⟨he, hes⟩ := List.pairwise_cons.1 h
    rw [List.foldl_cons, ih hes, get?_absorb]
    by_cases hej : e.1 == j
    · have hrest : Entries.find? es j = none := by
        rw [Entries.find?_eq_none]
        intro d hd
        exact BEq.neq_of_neq_of_beq (BEq.symm_false (he d hd)) hej
      rw [if_pos hej, hrest]
      simp [Entries.find?, hej]
    · simp [Entries.find?, hej]

/-- What a merge holds under a key: the merge of what the two maps hold there, the larger map's
value first. -/
theorem get?_merge (left right : GroupMap K A) (j : K) :
    (left.merge right).get? j =
      if right.size ≤ left.size then Option.merge Merge.merge (left.get? j) (right.get? j)
      else Option.merge Merge.merge (right.get? j) (left.get? j) := by
  unfold merge
  split_ifs with h
  · exact get?_foldl_absorb right.distinct left j
  · exact get?_foldl_absorb left.distinct right j

end GroupMap

end Groupwise
