import Groupwise.Position
import Groupwise.Proofs.Maps

/-!
# A fold for each key

A serial run folds the records of each class of keys in their order, from a starting value of its
own, and keeps the key of the first of them (`Folded`). One more record keeps it so
(`Folded.upsert`): the first one of a class brings the key and takes the next starting value, a
later one changes the value that is there.

By induction over the records, this is what a run without effects comes to (`folded_group`), and so
does a run that is watched (`run_aggregateBy`): what it asks of its caller is counted (`Calls`), so
that the map and the calls are known together.
-/

namespace Groupwise

variable {R K A : Type} [BEq K]

/-! ### Keys in the order of their first records -/

omit [BEq K] in
lemma eraseDupsBy_loop_snoc (r : K → K → Bool) (ks seen : List K) (k : K) :
    List.eraseDupsBy.loop r (ks ++ [k]) seen =
      if (List.eraseDupsBy.loop r ks seen).any (r k) then List.eraseDupsBy.loop r ks seen
      else List.eraseDupsBy.loop r ks seen ++ [k] := by
  induction ks generalizing seen with
  | nil => cases h : seen.any (r k) <;> simp [List.eraseDupsBy.loop, h]
  | cons l ks ih => cases h : seen.any (r l) <;> simp [List.eraseDupsBy.loop, h, ih]

lemma eraseDups_snoc (ks : List K) (k : K) :
    (ks ++ [k]).eraseDups =
      if ks.eraseDups.any (k == ·) then ks.eraseDups else ks.eraseDups ++ [k] :=
  eraseDupsBy_loop_snoc (· == ·) ks [] k

/-- The keys of the records, of each class the first one. -/
def firstKeys (key : R → K) (records : List R) : List K := (records.map key).eraseDups

lemma firstKeys_snoc (key : R → K) (records : List R) (r : R) :
    firstKeys key (records ++ [r]) =
      if (firstKeys key records).any (key r == ·) then firstKeys key records
      else firstKeys key records ++ [key r] := by
  rw [firstKeys, List.map_append, List.map_singleton, eraseDups_snoc]
  rfl

namespace GroupMap

variable [EquivBEq K] {g : GroupMap K A} {k j : K}

lemma any_keys (g : GroupMap K A) (k : K) : g.keys.any (k == ·) = g.contains k := by
  rw [Bool.eq_iff_iff, contains_iff, List.any_eq_true]
  simp only [BEq.comm]

lemma findIdx_keys_lt (h : g.contains k = true) : g.keys.findIdx (· == k) < g.keys.length :=
  List.findIdx_lt_length.2 (contains_iff.1 h)

/-- A key that is there keeps its place. -/
lemma findIdx_upsert_of_contains (h : g.contains j = true) (zero : A) (f : A → A) :
    (g.upsert k zero f).keys.findIdx (· == j) = g.keys.findIdx (· == j) := by
  rw [keys_upsert]
  split_ifs
  · rfl
  · rw [List.findIdx_append, if_pos (findIdx_keys_lt h)]

/-- A new key comes after all others. -/
lemma findIdx_upsert_of_not_contains (h : g.contains j = false) (hkj : (k == j) = true) (zero : A)
    (f : A → A) : (g.upsert k zero f).keys.findIdx (· == j) = g.size := by
  have hlast : g.keys.findIdx (· == j) = g.keys.length := by
    rw [List.findIdx_eq_length]
    intro l hl
    rw [← any_keys, List.any_eq_false] at h
    simpa [BEq.comm] using h l hl
  rw [keys_upsert, g.contains_congr hkj, h, if_neg Bool.false_ne_true, List.findIdx_append, hlast,
    if_neg (lt_irrefl _), size_eq_length_keys]
  simp [hkj]

end GroupMap

/-! ### What the records are folded into -/

/-- The map has the keys of the records, of each class the first one. The value of a class is the
fold over its records, from the starting value that has the place of the class as its number. -/
structure Folded (make : Nat → A) (key : R → K) (add : A → R → A) (rs : List R)
    (g : GroupMap K A) : Prop where
  keys_eq : g.keys = firstKeys key rs
  find?_eq : ∀ k, g.find? k = (rs.find? (key · == k)).map fun r =>
    (key r, (rs.filter (key · == k)).foldl add (make (g.keys.findIdx (· == k))))

namespace Folded

variable {make : Nat → A} {key : R → K} {add : A → R → A} {rs : List R} {g : GroupMap K A}

lemma empty : Folded make key add [] ∅ := ⟨rfl, fun _ => rfl⟩

lemma size_eq (h : Folded make key add rs g) : g.size = (firstKeys key rs).length := by
  rw [GroupMap.size_eq_length_keys, h.keys_eq]

lemma contains_eq (h : Folded make key add rs g) (k : K) :
    g.contains k = (rs.find? (key · == k)).isSome := by
  rw [GroupMap.contains_eq, h.find?_eq, Option.isSome_map]

/-- One more record. -/
lemma upsert [EquivBEq K] (h : Folded make key add rs g) (r : R) :
    Folded make key add (rs ++ [r]) (g.upsert (key r) (make g.size) (add · r)) := by
  constructor
  · rw [GroupMap.keys_upsert, firstKeys_snoc, ← h.keys_eq, GroupMap.any_keys]
  · intro k
    rw [GroupMap.find?_upsert, List.find?_append, List.filter_append, List.foldl_append]
    have hcontains := h.contains_eq k
    by_cases hrk : key r == k
    · rw [if_pos hrk, g.find?_congr hrk, h.find?_eq]
      cases hfind : rs.find? (key · == k) with
      | some s =>
        rw [hfind] at hcontains
        simp [hrk, GroupMap.findIdx_upsert_of_contains hcontains]
      | none =>
        -- the first record of its class
        rw [hfind] at hcontains
        have hnil : rs.filter (key · == k) = [] := by simpa using hfind
        simp [hrk, hnil, GroupMap.findIdx_upsert_of_not_contains hcontains hrk]
    · -- a record of another class may add a key, but only behind the key of this one
      rw [if_neg hrk, h.find?_eq]
      cases hfind : rs.find? (key · == k) with
      | some s =>
        rw [hfind] at hcontains
        simp [hrk, GroupMap.findIdx_upsert_of_contains hcontains]
      | none => simp [hrk]

end Folded

/-! ### Serial runs -/

/-- The change to a value that an update in place makes. -/
def changeBy (accept : R → StateM A Unit) (a : A) (r : R) : A := ((accept r).run a).2

section

variable {m : Type → Type} [Monad m]

/-- An aggregation in place is one of plain values, by the changes it makes. -/
lemma aggregateInPlaceBy_eq (key : R → m K) (factory : m A) (accept : R → StateM A Unit)
    (records : List R) :
    aggregateInPlaceBy key factory accept records =
      aggregateBy key factory (changeBy accept) records := rfl

lemma aggregateBy_snoc [LawfulMonad m] (key : R → m K) (zero : m A) (add : A → R → A)
    (records : List R) (r : R) :
    aggregateBy key zero add (records ++ [r]) =
      aggregateBy key zero add records >>= fun g => aggregateStep key zero add g r := by
  simp [aggregateBy]

end

/-! ### Runs without effects -/

/-- The map of a serial run whose keys and starting values have no effects. -/
def group (key : R → K) (zero : A) (add : A → R → A) (records : List R) : GroupMap K A :=
  records.foldl (fun g r => g.upsert (key r) zero (add · r)) ∅

lemma group_snoc (key : R → K) (zero : A) (add : A → R → A) (records : List R) (r : R) :
    group key zero add (records ++ [r]) =
      (group key zero add records).upsert (key r) zero (add · r) := by
  simp [group]

section

variable {m : Type → Type} [Monad m] [LawfulMonad m]

lemma aggregateStep_pure (key : R → K) (zero : A) (add : A → R → A) (g : GroupMap K A) (r : R) :
    aggregateStep (fun r => (pure (key r) : m K)) (pure zero) add g r =
      pure (g.upsert (key r) zero (add · r)) := by
  simp only [aggregateStep, GroupMap.ensure, GroupMap.upsert, pure_bind]
  split_ifs <;> simp

lemma aggregateBy_pure (key : R → K) (zero : A) (add : A → R → A) (records : List R) :
    aggregateBy (fun r => (pure (key r) : m K)) (pure zero) add records =
      pure (group key zero add records) := by
  induction records using List.reverseRecOn with
  | nil => rfl
  | append_singleton rs r ih =>
    rw [aggregateBy_snoc, ih, pure_bind, aggregateStep_pure, group_snoc]

end

lemma folded_group [EquivBEq K] (key : R → K) (zero : A) (add : A → R → A) (records : List R) :
    Folded (fun _ => zero) key add records (group key zero add records) := by
  induction records using List.reverseRecOn with
  | nil => exact .empty
  | append_singleton rs r ih =>
    rw [group_snoc]
    exact ih.upsert r

/-- Each class of keys has the fold over its records, in their order. -/
theorem get?_group [EquivBEq K] (key : R → K) (zero : A) (add : A → R → A) (records : List R)
    (k : K) :
    (group key zero add records).get? k =
      if records.any (key · == k) then some ((records.filter (key · == k)).foldl add zero)
      else none := by
  rw [GroupMap.get?_eq, (folded_group key zero add records).find?_eq, ← List.isSome_find?]
  cases records.find? (key · == k) <;> rfl

/-! ### Runs that are watched -/

/-- How the functions that were handed to a run have been called. -/
structure Calls (R : Type) where
  /-- The records whose keys were asked for, in this order. -/
  asked : List R
  /-- The number of starting values that were made. -/
  made : Nat

namespace Calls

/-- No call yet. -/
def none : Calls R := ⟨[], 0⟩

/-- The key of a record. -/
def askKey (key : R → K) (r : R) : StateM (Calls R) K :=
  modifyGet fun c => (key r, { c with asked := c.asked ++ [r] })

/-- The next starting value; `make n` is the one of the `n`-th call, counted from zero. -/
def makeZero (make : Nat → A) : StateM (Calls R) A :=
  modifyGet fun c => (make c.made, { c with made := c.made + 1 })

end Calls

/-- One record: its key is asked for once, and a starting value is made only for a new key. -/
lemma run_aggregateStep (make : Nat → A) (key : R → K) (add : A → R → A) (g : GroupMap K A)
    (r : R) (rs : List R) :
    (aggregateStep (Calls.askKey key) (Calls.makeZero make) add g r).run ⟨rs, g.size⟩ =
      (g.upsert (key r) (make g.size) (add · r),
        ⟨rs ++ [r], (g.upsert (key r) (make g.size) (add · r)).size⟩) := by
  rw [GroupMap.size_upsert, aggregateStep, GroupMap.upsert]
  unfold GroupMap.ensure
  cases h : g.contains (key r) <;> simp [Calls.askKey, Calls.makeZero, h] <;> rfl

lemma run_aggregateBy [EquivBEq K] (make : Nat → A) (key : R → K) (add : A → R → A)
    (records : List R) :
    ∃ g, (aggregateBy (Calls.askKey key) (Calls.makeZero make) add records).run .none =
        (g, ⟨records, g.size⟩) ∧ Folded make key add records g := by
  induction records using List.reverseRecOn with
  | nil => exact ⟨∅, rfl, .empty⟩
  | append_singleton rs r ih =>
    obtain ⟨g, hrun, hg⟩ := ih
    refine ⟨_, ?_, hg.upsert r⟩
    rw [aggregateBy_snoc, StateT.run_bind, hrun]
    exact run_aggregateStep make key add g r rs

/-- A serial run folds the records of each key in their order. The keys of its map are the keys of
the records, of each class the one of the first record, and the value of a class is the fold over
its records from the one starting value that was made for it. An aggregation in place has the same
result. Both ask each record once for its key, and make one starting value for each class. -/
theorem aggregateBy_folds [EquivBEq K] (key : R → K) (make : Nat → A) (add : A → R → A)
    (records : List R) :
    ∃ g : GroupMap K A,
      (aggregateBy (Calls.askKey key) (Calls.makeZero make) add records).run .none =
        (g, ⟨records, (firstKeys key records).length⟩) ∧
      (aggregateInPlaceBy (Calls.askKey key) (Calls.makeZero make) (fun r => modify (add · r))
        records).run .none = (g, ⟨records, (firstKeys key records).length⟩) ∧
      g.keys.Perm (firstKeys key records) ∧
      ∀ k, g.find? k = (records.find? (key · == k)).map fun r =>
        (key r, (records.filter (key · == k)).foldl add
          (make ((firstKeys key records).findIdx (· == k)))) := by
  obtain ⟨g, hrun, hg⟩ := run_aggregateBy make key add records
  rw [hg.size_eq] at hrun
  refine ⟨g, hrun, ?_, .of_eq hg.keys_eq, fun k => ?_⟩
  · rw [aggregateInPlaceBy_eq]
    exact hrun
  · rw [← hg.keys_eq]
    exact hg.find?_eq k

/-- Two products of one name are one key, and the first of them stays. The values list quantities in
the order of the records, behind the number of the starting value. -/
theorem aggregateBy_folds_products :
    let p : Product Int := ⟨"p", "debt", 1⟩
    let p' : Product Int := ⟨"p", "loan", 2⟩
    let q : Product Int := ⟨"q", "debt", 3⟩
    let records : List (Product Int × Nat) := [(q, 7), (p, 5), (q, 8), (p', 6)]
    ∃ g : GroupMap (Product Int) (List Nat),
      (aggregateBy (Calls.askKey Prod.fst) (Calls.makeZero fun n => [n]) (fun a r => a ++ [r.2])
        records).run .none = (g, ⟨records, 2⟩) ∧
      (aggregateInPlaceBy (Calls.askKey Prod.fst) (Calls.makeZero fun n => [n])
        (fun r => modify (· ++ [r.2])) records).run .none = (g, ⟨records, 2⟩) ∧
      g.keys.Perm [q, p] ∧
      g.find? p' = some (p, [1, 5, 6]) ∧ g.find? q = some (q, [0, 7, 8]) := by
  intro p p' q records
  obtain ⟨g, hrun, hrun', hkeys, hentry⟩ :=
    aggregateBy_folds Prod.fst (fun n => [n]) (fun a r => a ++ [r.2]) records
  exact ⟨g, hrun, hrun', hkeys, hentry p', hentry q⟩

end Groupwise
