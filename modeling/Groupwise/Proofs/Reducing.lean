import Groupwise.Proofs.Collecting

/-!
# Reducing runs compute the serial result

If merging is associative and commutative, has the starting value as its identity and commutes with
adding a record, then a collected value is determined by its records (`Collected.eq_foldl`). A
reducing run and a serial run collect the same records for each class of keys, so their maps agree
at every key, whatever the batch size and the bracketing.
-/

namespace Groupwise

variable {R K A : Type}

/-! ### Every bracketing is that of a schedule -/

namespace Reduction

variable {α β : Type}

/-- The same bracketing with the parts taken from a list, and the parts left over. -/
def fill : Reduction α → List β → Reduction β × List β
  | identity, bs => (identity, bs)
  | part _, [] => (identity, [])
  | part _, b :: bs => (part b, bs)
  | join l r, bs =>
    let (l, bs) := l.fill bs
    let (r, bs) := r.fill bs
    (join l r, bs)

lemma leaves_fill (t : Reduction α) (bs cs : List β) (h : bs.length = t.leaves.length) :
    ((t.fill (bs ++ cs)).1.leaves, (t.fill (bs ++ cs)).2) = (bs, cs) := by
  induction t generalizing bs cs with
  | identity =>
    obtain rfl := List.length_eq_zero_iff.1 h
    rfl
  | part a =>
    obtain ⟨b, rfl⟩ := List.length_eq_one_iff.1 h
    rfl
  | join l r ihl ihr =>
    rw [leaves_join, List.length_append] at h
    have hl := ihl (bs.take l.leaves.length) (bs.drop l.leaves.length ++ cs)
      (by rw [List.length_take]; omega)
    rw [← List.append_assoc, List.take_append_drop, Prod.mk.injEq] at hl
    have hr := ihr (bs.drop l.leaves.length) cs (by rw [List.length_drop]; omega)
    rw [Prod.mk.injEq] at hr
    simp only [fill, leaves_join, hl, hr, List.take_append_drop]

lemma fill_leaves (t : Reduction α) (cs : List α) : t.fill (t.leaves ++ cs) = (t, cs) := by
  induction t generalizing cs with
  | identity => rfl
  | part a => rfl
  | join l r ihl ihr => simp [fill, ihl, ihr]

/-- A schedule may bracket its parts in any way, with the identity anywhere. -/
theorem exists_schedule [BEq K] (t : Reduction α) (turns : List Nat) (spread : KeyHash K) :
    ∃ s : Schedule K, s.turns = turns ∧ s.spread = spread ∧ s.reduction t.leaves = t := by
  let bracket {β : Type} (bs : List β) : Reduction β :=
    if bs.length = t.leaves.length then (t.fill bs).1 else leftToRight bs
  have hleaves {β : Type} (bs : List β) : (bracket bs).leaves = bs := by
    simp only [bracket]
    split_ifs with h
    · have := t.leaves_fill bs [] h
      simp_all
    · exact leaves_leftToRight bs
  refine ⟨⟨bracket, hleaves, turns, spread⟩, rfl, rfl, ?_⟩
  have := t.fill_leaves []
  simp_all [bracket]

end Reduction

/-! ### Collected values of a lawful merge -/

/-- The laws under which the values of parts tell the value of the whole. -/
structure Mergeable [Merge A] (zero : A) (add : A → R → A) : Prop where
  assoc : ∀ a b c : A, Merge.merge (Merge.merge a b) c = Merge.merge a (Merge.merge b c)
  comm : ∀ a b : A, Merge.merge a b = Merge.merge b a
  merge_zero : ∀ a : A, Merge.merge a zero = a
  add_merge : ∀ (a b : A) (r : R), add (Merge.merge a b) r = Merge.merge a (add b r)

namespace Mergeable

variable [Merge A] {zero : A} {add : A → R → A}

/-- Adding a record is merging with the value of that record alone. -/
lemma add_eq (laws : Mergeable zero add) (a : A) (r : R) :
    add a r = Merge.merge a (add zero r) := by
  rw [← laws.add_merge, laws.merge_zero]

lemma add_swap (laws : Mergeable zero add) (a : A) (r s : R) :
    add (add a r) s = add (add a s) r := by
  rw [laws.add_eq (add a r), laws.add_eq a r, laws.add_eq (add a s), laws.add_eq a s,
    laws.assoc, laws.assoc, laws.comm (add zero r)]

lemma foldl_perm (laws : Mergeable zero add) {rs ss : List R} (h : rs.Perm ss) :
    rs.foldl add zero = ss.foldl add zero :=
  have : RightCommutative add := ⟨laws.add_swap⟩
  h.foldl_eq zero

lemma merge_foldl (laws : Mergeable zero add) (a b : A) (rs : List R) :
    Merge.merge a (rs.foldl add b) = rs.foldl add (Merge.merge a b) := by
  induction rs generalizing b with
  | nil => rfl
  | cons r rs ih => rw [List.foldl_cons, ih, List.foldl_cons, laws.add_merge]

/-- Values that are added up, and merged by adding them up too. -/
lemma of_sum [AddCommMonoid A] (hmerge : ∀ a b : A, Merge.merge a b = a + b) (weight : R → A) :
    Mergeable (0 : A) fun a r => a + weight r where
  assoc a b c := by simp only [hmerge, add_assoc]
  comm a b := by rw [hmerge, hmerge, add_comm]
  merge_zero a := by rw [hmerge, add_zero]
  add_merge a b r := by rw [hmerge, hmerge, add_assoc]

end Mergeable

/-- Under the laws a collected value is the fold over its records, in whatever order. -/
theorem Collected.eq_foldl [Merge A] {zero : A} {add : A → R → A} (laws : Mergeable zero add)
    {rs : Multiset R} {a : A} (h : Collected zero add rs a) {xs : List R}
    (hxs : (xs : Multiset R) = rs) : a = xs.foldl add zero := by
  induction h generalizing xs with
  | zero =>
    obtain rfl := (Multiset.coe_eq_zero xs).1 hxs
    rfl
  | @add rs a r h ih =>
    induction rs using Quotient.inductionOn with | _ ys =>
    have hperm : xs.Perm (ys ++ [r]) :=
      (Multiset.coe_eq_coe.1 hxs).trans (List.perm_append_singleton r ys).symm
    rw [laws.foldl_perm hperm, List.foldl_append, ← ih rfl]
    rfl
  | @merge rs ss a b _ _ iha ihb =>
    induction rs using Quotient.inductionOn with | _ ys =>
    induction ss using Quotient.inductionOn with | _ zs =>
    have hperm : xs.Perm (ys ++ zs) := Multiset.coe_eq_coe.1 hxs
    rw [laws.foldl_perm hperm, List.foldl_append, ← iha rfl, ihb rfl, laws.merge_foldl,
      laws.merge_zero]

/-! ### Reducing runs -/

variable [BEq K] [EquivBEq K]

/-- Under the laws, a map that gathers a list of records is that of the serial run over it. -/
lemma GroupMap.Gathers.get?_eq_group [Merge A] {key : R → K} {zero : A} {add : A → R → A}
    (laws : Mergeable zero add) {records : List R} {g : GroupMap K A}
    (hg : g.Gathers key (Collected zero add) records) (k : K) :
    g.get? k = (group key zero add records).get? k := by
  have hiff := hg.contains_iff k
  rw [get?_group]
  cases hget : g.get? k with
  | none =>
    rw [contains_eq_isSome_get?, hget] at hiff
    rw [if_neg]
    simpa using hiff
  | some a =>
    rw [contains_eq_isSome_get?, hget] at hiff
    have ha := (hg.holds_of_get? hget).eq_foldl laws (ofKey_coe key k records).symm
    rw [if_pos, ha]
    simpa using hiff

namespace ParallelAggregator

variable {m : Type → Type} [Monad m] [LawfulMonad m] [MonadExceptOf Abort m]

lemma get?_reduced [Merge A] (p : ParallelAggregator K) (key : R → K) {zero : A}
    {add : A → R → A} (laws : Mergeable zero add) (records : List R) (k : K) :
    (p.reduced key zero add (evenBatches records.length p.batchSize) records).get? k =
      (group key zero add records).get? k := by
  have h := p.gathers_reduced key zero add (evenBatches records.length p.batchSize) records
  rw [flatten_slices] at h
  exact h.get?_eq_group laws k

/-- Both reducing styles compute the serial result, for every input, batch size and bracketing.
Where values are added up, each class of keys has the sum over exactly its own records. -/
theorem reduced_agrees_with_serial (p : ParallelAggregator K)
    (hfold : p.failpoints.armed .batchFold = false)
    (hreduce : p.failpoints.armed .batchReduce = false) (key : R → K) (records : List R)
    (hplannable : Plannable records.length p.batchSize) :
    (∀ (A : Type) [Merge A] (zero : A) (add : A → R → A), Mergeable zero add →
      ∃ g h : GroupMap K A,
        p.aggregateBy (fun r => (pure (key r) : m K)) (pure zero) add records = pure g ∧
        Groupwise.aggregateBy (fun r => (pure (key r) : m K)) (pure zero) add records = pure h ∧
        ∀ k, g.get? k = h.get? k) ∧
    (∀ (A : Type) [Merge A] (factory : A) (accept : R → StateM A Unit),
      Mergeable factory (changeBy accept) →
      ∃ g h : GroupMap K A,
        p.aggregateInPlaceByReduce (fun r => (pure (key r) : m K)) (pure factory) accept records =
          pure g ∧
        Groupwise.aggregateInPlaceBy (fun r => (pure (key r) : m K)) (pure factory) accept
          records = pure h ∧
        ∀ k, g.get? k = h.get? k) ∧
    (∀ (S : Type) [AddCommMonoid S] [Merge S], (∀ a b : S, Merge.merge a b = a + b) →
      ∀ weight : R → S, ∃ g : GroupMap K S,
        p.aggregateBy (fun r => (pure (key r) : m K)) (pure 0) (fun a r => a + weight r) records =
          pure g ∧
        p.aggregateInPlaceByReduce (fun r => (pure (key r) : m K)) (pure 0)
          (fun r => modify (· + weight r)) records = pure g ∧
        ∀ k, g.get? k =
          if records.any (key · == k) then some ((records.filter (key · == k)).map weight).sum
          else none) := by
  have hplan := p.plan_of_plannable hplannable
  refine ⟨fun A _ zero add laws => ?_, fun A _ factory accept laws => ?_,
    fun S _ _ hmerge weight => ?_⟩
  · exact ⟨_, _, p.aggregateBy_eq_reduced key hfold hplan zero add,
      aggregateBy_pure key zero add records, p.get?_reduced key laws records⟩
  · exact ⟨_, _, p.aggregateInPlaceByReduce_eq_reduced key hreduce hplan factory accept,
      aggregateBy_pure key factory (changeBy accept) records, p.get?_reduced key laws records⟩
  · refine ⟨_, p.aggregateBy_eq_reduced key hfold hplan 0 _,
      p.aggregateInPlaceByReduce_eq_reduced key hreduce hplan 0 _, fun k => ?_⟩
    have hget := p.get?_reduced key (.of_sum hmerge weight) records k
    rw [get?_group] at hget
    refine hget.trans ?_
    simp only [List.sum_eq_foldl, List.foldl_map]

theorem reduced_agrees_with_serial_inPairs :
    let records : List (String × Int) := [("a", 1), ("b", 10), ("a", 2), ("a", 3), ("b", 20)]
    inPairs.failpoints.armed .batchFold = false ∧ inPairs.failpoints.armed .batchReduce = false ∧
    Plannable records.length inPairs.batchSize ∧
    Mergeable (0 : Int) (fun a (r : String × Int) => a + r.2) ∧
    (∃ g h : GroupMap String Int,
      inPairs.aggregateBy (m := Except Abort) (fun r => .ok r.1) (.ok 0) (fun a r => a + r.2)
        records = .ok g ∧
      Groupwise.aggregateBy (m := Except Abort) (fun r => .ok r.1) (.ok 0) (fun a r => a + r.2)
        records = .ok h ∧
      ∀ k, g.get? k = h.get? k) ∧
    ∃ g : GroupMap String Int,
      inPairs.aggregateInPlaceByReduce (m := Except Abort) (fun r => .ok r.1) (.ok 0)
        (fun r => modify (· + r.2)) records = .ok g ∧
      g.get? "a" = some 6 ∧ g.get? "b" = some 30 ∧ g.get? "c" = none := by
  intro records
  have laws : Mergeable (0 : Int) fun a (r : String × Int) => a + r.2 := .of_sum (fun _ _ => rfl) _
  have hplannable : Plannable records.length inPairs.batchSize := by decide
  obtain ⟨hplain, -, hsums⟩ :=
    reduced_agrees_with_serial (m := Except Abort) inPairs rfl rfl Prod.fst records hplannable
  obtain ⟨g, -, hg, hget⟩ := hsums Int (fun _ _ => rfl) Prod.snd
  exact ⟨rfl, rfl, hplannable, laws, hplain Int 0 _ laws, g, hg, hget "a", hget "b", hget "c"⟩

end ParallelAggregator

end Groupwise
