import Groupwise.Position
import Groupwise.Proofs.Maps

/-!
# Merging is a union

A merge folds the smaller map into the larger one, entry by entry, and takes each entry that it
changes out of the map and puts it back. Nothing is lost on the way: if the weight of a merged value
is the weight of its parts, absorbing one entry adds its weight to that of the map
(`total_absorb`), and by induction over the entries a merge adds up the weights of the two maps
(`total_merge`). A value that is dropped or used twice would show in it, since the weight may be any
that is additive.

If merging values is commutative, it does not matter which map is the larger one, and a merge is the
union of the two maps, with values of common keys merged (`get?_merge_of_comm`). So it is
associative and commutative as merging values is, whichever maps are swapped on the way.
-/

namespace Groupwise

variable {K A S : Type} [BEq K]

/-! ### The weight of a map -/

namespace Entries

/-- Erasing a key takes the value away that was found under it. -/
lemma sum_map_erase [AddCommMonoid S] [EquivBEq K] {es : List (K × A)} (h : Distinct es)
    (weight : A → S) (k : K) :
    (es.map (weight ·.2)).sum =
      ((erase es k).map (weight ·.2)).sum + ((find? es k).elim 0 (weight ·.2)) := by
  induction es with
  | nil => simp [erase, find?]
  | cons e es ih =>
    obtain ⟨he, hes⟩ := List.pairwise_cons.1 h
    by_cases hek : e.1 == k
    · -- no later entry has the key of this one
      have hrest : erase es k = es := by
        rw [erase, List.filter_eq_self]
        intro d hd
        simp [BEq.neq_of_neq_of_beq (BEq.symm_false (he d hd)) hek]
      have herase : erase (e :: es) k = es := by
        rw [← hrest]
        simp [erase, hek]
      have hfind : find? (e :: es) k = some e := by simp [find?, hek]
      rw [herase, hfind, List.map_cons, List.sum_cons, Option.elim_some, add_comm]
    · have herase : erase (e :: es) k = e :: erase es k := by simp [erase, hek]
      have hfind : find? (e :: es) k = find? es k := List.find?_cons_of_neg hek
      rw [herase, hfind, List.map_cons, List.map_cons, List.sum_cons, List.sum_cons, ih hes,
        add_assoc]

end Entries

namespace GroupMap

section

variable [AddCommMonoid S]

/-- The weight of all values of a map. -/
def total (weight : A → S) (g : GroupMap K A) : S := (g.entries.map (weight ·.2)).sum

variable [EquivBEq K] [Merge A] {weight : A → S}
  (hweight : ∀ a b : A, weight (Merge.merge a b) = weight a + weight b)

include hweight

/-- The value that was there leaves the map and comes back as a part of the merged one. -/
lemma total_absorb (g : GroupMap K A) (k : K) (a : A) :
    (g.absorb k a).total weight = g.total weight + weight a := by
  rw [total, total, absorb, entries_replace, List.map_append, List.sum_append, List.map_singleton,
    List.sum_singleton, Entries.sum_map_erase g.distinct weight k, get?_eq, find?]
  cases Entries.find? g.entries k with
  | none => simp
  | some e => simp [hweight, add_assoc]

lemma total_foldl_absorb (es : List (K × A)) (g : GroupMap K A) :
    (es.foldl (fun g e => g.absorb e.1 e.2) g).total weight =
      g.total weight + (es.map (weight ·.2)).sum := by
  induction es generalizing g with
  | nil => simp
  | cons e es ih =>
    rw [List.foldl_cons, ih, total_absorb hweight, List.map_cons, List.sum_cons, add_assoc]

/-- A merge has the weight of both maps. -/
lemma total_merge (left right : GroupMap K A) :
    (left.merge right).total weight = left.total weight + right.total weight := by
  unfold merge
  split_ifs with h
  · exact total_foldl_absorb hweight right.entries left
  · rw [add_comm]
    exact total_foldl_absorb hweight left.entries right

end

/-! ### The union of two maps -/

variable [Merge A]

@[simp] lemma merge_empty (g : GroupMap K A) : g.merge ∅ = g := by
  simp [merge]

@[simp] lemma empty_merge (g : GroupMap K A) : (∅ : GroupMap K A).merge g = g := by
  obtain ⟨_ | ⟨e, es⟩, hdistinct⟩ := g
  · rfl
  · rfl

variable [EquivBEq K]

lemma contains_merge (left right : GroupMap K A) (k : K) :
    (left.merge right).contains k = (left.contains k || right.contains k) := by
  simp only [contains_eq_isSome_get?, get?_merge]
  split_ifs <;> cases left.get? k <;> cases right.get? k <;> rfl

section

variable {left right : GroupMap K A} {k : K}

lemma get?_merge_of_not_contains_right (h : right.contains k = false) :
    (left.merge right).get? k = left.get? k := by
  have hnone : right.get? k = none := by simpa [contains_eq_isSome_get?] using h
  rw [get?_merge, hnone]
  split_ifs <;> cases left.get? k <;> rfl

lemma get?_merge_of_not_contains_left (h : left.contains k = false) :
    (left.merge right).get? k = right.get? k := by
  have hnone : left.get? k = none := by simpa [contains_eq_isSome_get?] using h
  rw [get?_merge, hnone]
  split_ifs <;> cases right.get? k <;> rfl

lemma get?_merge_of_both {a b : A} (ha : left.get? k = some a) (hb : right.get? k = some b) :
    (left.merge right).get? k =
      some (if right.size ≤ left.size then Merge.merge a b else Merge.merge b a) := by
  rw [get?_merge, ha, hb]
  split_ifs <;> rfl

end

section

variable (hcomm : ∀ a b : A, Merge.merge a b = Merge.merge b a)

include hcomm

omit [BEq K] [EquivBEq K] in
lemma optionMerge_comm (o o' : Option A) :
    Option.merge Merge.merge o o' = Option.merge Merge.merge o' o := by
  have : Std.Commutative (Merge.merge (A := A)) := ⟨hcomm⟩
  exact Std.Commutative.comm o o'

/-- Which map is the larger one does not matter. -/
lemma get?_merge_of_comm (left right : GroupMap K A) (k : K) :
    (left.merge right).get? k = Option.merge Merge.merge (left.get? k) (right.get? k) := by
  rw [get?_merge, optionMerge_comm hcomm (right.get? k), ite_self]

lemma get?_merge_comm (left right : GroupMap K A) (k : K) :
    (left.merge right).get? k = (right.merge left).get? k := by
  rw [get?_merge_of_comm hcomm, get?_merge_of_comm hcomm, optionMerge_comm hcomm]

lemma get?_merge_assoc
    (hassoc : ∀ a b c : A, Merge.merge (Merge.merge a b) c = Merge.merge a (Merge.merge b c))
    (f g h : GroupMap K A) (k : K) :
    ((f.merge g).merge h).get? k = (f.merge (g.merge h)).get? k := by
  have : Std.Associative (Merge.merge (A := A)) := ⟨hassoc⟩
  simp only [get?_merge_of_comm hcomm]
  exact Std.Associative.assoc (f.get? k) (g.get? k) (h.get? k)

end

/-- A merge is the union of two maps, whichever is the larger one. It has the keys of both; a key of
one map keeps its value, a key of both has their values merged, in the order of the maps or the
other way round. Each value is used once: whatever a weight may count that merging values adds up,
the merge has the weight of both maps. If merging values is associative and commutative, then so is
merging maps, the sizes of the maps do not matter, and the empty map is its identity. -/
theorem merge_pointwise :
    (∀ left right : GroupMap K A,
      (∀ k, (left.merge right).contains k = (left.contains k || right.contains k)) ∧
      (∀ k, right.contains k = false → (left.merge right).get? k = left.get? k) ∧
      (∀ k, left.contains k = false → (left.merge right).get? k = right.get? k) ∧
      (∀ k a b, left.get? k = some a → right.get? k = some b →
        (left.merge right).get? k =
          some (if right.size ≤ left.size then Merge.merge a b else Merge.merge b a)) ∧
      ∀ (S : Type) [AddCommMonoid S] (weight : A → S),
        (∀ a b : A, weight (Merge.merge a b) = weight a + weight b) →
        (left.merge right).total weight = left.total weight + right.total weight) ∧
    ((∀ a b c : A, Merge.merge (Merge.merge a b) c = Merge.merge a (Merge.merge b c)) →
      (∀ a b : A, Merge.merge a b = Merge.merge b a) →
      ∀ f g h : GroupMap K A,
        (∀ k, (f.merge g).get? k = Option.merge Merge.merge (f.get? k) (g.get? k)) ∧
        (∀ k, ((f.merge g).merge h).get? k = (f.merge (g.merge h)).get? k) ∧
        (∀ k, (f.merge g).get? k = (g.merge f).get? k) ∧
        (∅ : GroupMap K A).merge f = f ∧ f.merge ∅ = f) := by
  constructor
  · intro left right
    exact ⟨left.contains_merge right, fun k => get?_merge_of_not_contains_right,
      fun k => get?_merge_of_not_contains_left, fun k a b => get?_merge_of_both,
      fun S _ weight hweight => total_merge hweight left right⟩
  · intro hassoc hcomm f g h
    exact ⟨get?_merge_of_comm hcomm f g, get?_merge_assoc hcomm hassoc f g h,
      get?_merge_comm hcomm f g, f.empty_merge, f.merge_empty⟩

/-- Products of one name are one key. The first map is the smaller one of the first two, and in the
other bracketing it meets a map of three keys. -/
theorem merge_pointwise_products :
    let p : Product Int := ⟨"p", "debt", 1⟩
    let p' : Product Int := ⟨"p", "loan", 2⟩
    let q : Product Int := ⟨"q", "debt", 3⟩
    let r : Product Int := ⟨"r", "debt", 4⟩
    let f : GroupMap (Product Int) Nat := ⟨[(p, 1)], by decide⟩
    let g : GroupMap (Product Int) Nat := ⟨[(q, 20), (p', 4)], by decide⟩
    let h : GroupMap (Product Int) Nat := ⟨[(r, 300), (q, 50)], by decide⟩
    (f.merge g).contains q = true ∧ (f.merge g).get? q = some 20 ∧ (f.merge g).get? p = some 5 ∧
      (f.merge g).total id = 25 ∧
      (∀ k, (f.merge g).get? k = Option.merge (· + ·) (f.get? k) (g.get? k)) ∧
      (∀ k, ((f.merge g).merge h).get? k = (f.merge (g.merge h)).get? k) ∧
      (∀ k, (f.merge g).get? k = (g.merge f).get? k) ∧
      (∅ : GroupMap (Product Int) Nat).merge f = f := by
  intro p p' q r f g h
  obtain ⟨hunion, hlaws⟩ := merge_pointwise (K := Product Int) (A := Nat)
  obtain ⟨hkeys, -, hright, hboth, htotal⟩ := hunion f g
  obtain ⟨hget, hassoc, hcomm, hempty, -⟩ := hlaws Nat.add_assoc Nat.add_comm f g h
  refine ⟨hkeys q, hright q (by decide), ?_, htotal Nat id fun a b => rfl, hget, hassoc, hcomm,
    hempty⟩
  exact hboth p 1 4 (by decide) (by decide)

end GroupMap

end Groupwise
