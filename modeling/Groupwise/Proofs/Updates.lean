import Groupwise.Proofs.Folding
import Groupwise.Proofs.Sharing

/-!
# Every update is made once

The values of a map say by themselves which starting value each of them comes from, if the starting
values are numbered in the order in which they are asked for (`Seeded`). A serial run asks for one
value for each class of keys (`run_numbered`), and a run on a shared map has the effects of a serial
run over an interleaving of its batches. So no update is lost or made twice, and no starting value
is wasted.
-/

namespace Groupwise

variable {R K A : Type} [BEq K]

/-! ### Numbered starting values -/

/-- A factory whose `n`-th call returns `make n`. -/
def numbered (make : Nat → A) : StateT Nat (Except Abort) A := modifyGet fun n => (make n, n + 1)

/-- Each class of keys of `rs` has a value: the starting value that is number `seed` of the class,
changed by the records of the class one after the other. No two classes share a starting value. -/
structure Seeded (make : Nat → A) (key : R → K) (add : A → R → A) (rs : List R)
    (g : GroupMap K A) (seed : K → Nat) : Prop where
  contains_iff : ∀ k, g.contains k = true ↔ ∃ r ∈ rs, (key r == k) = true
  seed_lt : ∀ k, g.contains k = true → seed k < g.size
  seed_inj : ∀ k l, g.contains k = true → g.contains l = true → seed k = seed l → (k == l) = true
  get?_eq : ∀ k, g.contains k = true →
    g.get? k = some ((rs.filter (key · == k)).foldl add (make (seed k)))

namespace Seeded

variable [EquivBEq K] {make : Nat → A} {key : R → K} {add : A → R → A} {rs : List R}
  {g : GroupMap K A} {seed : K → Nat}

lemma of_sameEntries (h : Seeded make key add rs g seed) {g' : GroupMap K A}
    (hsame : GroupMap.SameEntries g' g) : Seeded make key add rs g' seed := by
  constructor
  · intro k
    rw [hsame.contains_eq, h.contains_iff]
  · intro k hk
    rw [hsame.contains_eq] at hk
    rw [hsame.size_eq]
    exact h.seed_lt k hk
  · intro k l hk hl
    rw [hsame.contains_eq] at hk hl
    exact h.seed_inj k l hk hl
  · intro k hk
    rw [hsame.contains_eq] at hk
    rw [hsame.get?_eq]
    exact h.get?_eq k hk

end Seeded

/-- A fold for each class is one from the starting value that has the place of the class. -/
lemma Folded.seeded [EquivBEq K] {make : Nat → A} {key : R → K} {add : A → R → A} {rs : List R}
    {g : GroupMap K A} (h : Folded make key add rs g) :
    Seeded make key add rs g fun k => g.keys.findIdx (· == k) := by
  constructor
  · intro k
    rw [h.contains_eq, List.find?_isSome]
  · intro k hk
    rw [GroupMap.size_eq_length_keys]
    exact GroupMap.findIdx_keys_lt hk
  · intro k l hk hl hkl
    have hkeyk := List.findIdx_getElem (w := GroupMap.findIdx_keys_lt hk)
    have hkeyl := List.findIdx_getElem (w := GroupMap.findIdx_keys_lt hl)
    simp only [hkl] at hkeyk
    exact BEq.trans (BEq.symm hkeyk) hkeyl
  · intro k hk
    rw [h.contains_eq, Option.isSome_iff_exists] at hk
    obtain ⟨r, hr⟩ := hk
    rw [GroupMap.get?_eq, h.find?_eq, hr]
    rfl

lemma aggregateInPlaceBy_snoc {m : Type → Type} [Monad m] [LawfulMonad m] (key : R → K)
    (factory : m A) (accept : R → StateM A Unit) (records : List R) (r : R) :
    aggregateInPlaceBy (fun r => pure (key r)) factory accept (records ++ [r]) =
      aggregateInPlaceBy (fun r => pure (key r)) factory accept records >>= fun g =>
        g.settle (key r) factory (changeBy accept · r) := by
  simp [aggregateInPlaceBy, acceptStep_eq_settle]

lemma run_numbered_folded [EquivBEq K] (make : Nat → A) (key : R → K)
    (accept : R → StateM A Unit) (records : List R) :
    ∃ g, (aggregateInPlaceBy (fun r => pure (key r)) (numbered make) accept records).run 0 =
        .ok (g, g.size) ∧ Folded make key (changeBy accept) records g := by
  induction records using List.reverseRecOn with
  | nil => exact ⟨∅, rfl, .empty⟩
  | append_singleton rs r ih =>
    obtain ⟨g, hrun, hg⟩ := ih
    refine ⟨_, ?_, hg.upsert r⟩
    have hstep : (g.settle (key r) (numbered make) (changeBy accept · r)).run g.size =
        .ok (g.upsert (key r) (make g.size) (changeBy accept · r),
          (g.upsert (key r) (make g.size) (changeBy accept · r)).size) := by
      rw [GroupMap.size_upsert, GroupMap.settle, GroupMap.ensure, GroupMap.upsert]
      split_ifs <;> rfl
    rw [aggregateInPlaceBy_snoc, StateT.run_bind, hrun]
    exact hstep

/-- A serial run asks for one starting value for each class of keys. -/
lemma run_numbered [EquivBEq K] (make : Nat → A) (key : R → K) (accept : R → StateM A Unit)
    (records : List R) :
    ∃ g seed, (aggregateInPlaceBy (fun r => pure (key r)) (numbered make) accept records).run 0 =
        .ok (g, g.size) ∧ Seeded make key (changeBy accept) records g seed := by
  obtain ⟨g, hrun, hg⟩ := run_numbered_folded make key accept records
  exact ⟨g, _, hrun, hg.seeded⟩

/-! ### Runs on a shared map -/

namespace ParallelAggregator

variable [EquivBEq K]

/-- Whatever the workers do in which order, no update of a shared map is lost and none is made
twice: the keys are those of the records, the value of a key is one value of the factory that each
record of the key has changed once, the records of a batch in their order, and the factory was asked
once for each key. Where changes commute, this is the serial result. -/
theorem shared_loses_no_update (p : ParallelAggregator K)
    (hp : p.failpoints.armed .batchAccept = false) (key : R → K) (accept : R → StateM A Unit)
    (records : List R) (hplannable : Plannable records.length p.batchSize)
    (hshards : p.lockShards ≤ shardCapacity) :
    (∀ make : Nat → A, ∃ plan order, p.plan records.length = .ok plan ∧
      Interleaving (plan.batches.map (·.slice records)) order ∧
      (plan.batches.map (·.slice records)).flatten = records ∧
      (∀ b ∈ plan.batches, (b.slice records).Sublist order) ∧
      ∃ (g : GroupMap K A) (seed : K → Nat),
        (p.aggregateInPlaceBy (fun r => pure (key r)) (numbered make) accept records).run 0 =
          .ok (g, g.size) ∧
        (∀ k, g.contains k = true ↔ ∃ r ∈ records, (key r == k) = true) ∧
        Seeded make key (changeBy accept) order g seed) ∧
    ((∀ (a : A) (r s : R), (key r == key s) = true →
        changeBy accept (changeBy accept a r) s = changeBy accept (changeBy accept a s) r) →
      ∀ factory : A, ∃ g h : GroupMap K A,
        p.aggregateInPlaceBy (m := Except Abort) (fun r => .ok (key r)) (.ok factory) accept
          records = .ok g ∧
        Groupwise.aggregateInPlaceBy (m := Except Abort) (fun r => .ok (key r)) (.ok factory) accept
          records = .ok h ∧
        ∀ k, g.get? k = h.get? k) := by
  have hplan := p.plan_of_plannable hplannable
  have hflatten := flatten_slices records p.batchSize
  have hperm : ∀ order, Interleaving
      ((evenBatches records.length p.batchSize).map (·.slice records)) order →
        order.Perm records := fun order horder => hflatten ▸ horder.perm
  constructor
  · intro make
    obtain ⟨order, horder, hrun⟩ :=
      p.lockstep_serial hp hplan hshards key (numbered make) accept
    obtain ⟨h, seed, hserial, hseed⟩ := run_numbered make key accept order
    obtain ⟨g, hg, hsame⟩ := hrun.of_run_ok hserial
    rw [← hsame.size_eq] at hg
    have hseed' := hseed.of_sameEntries hsame
    refine ⟨_, order, hplan, horder, hflatten,
      fun b hb => horder.sublist _ (List.mem_map_of_mem hb), g, seed, hg, fun k => ?_, hseed'⟩
    simp only [hseed'.contains_iff, (hperm order horder).mem_iff]
  · intro hcomm factory
    obtain ⟨order, horder, g, hg, hsame⟩ :=
      p.exists_sameEntries hp hplan hshards key factory accept
    refine ⟨g, _, hg, aggregateBy_pure key factory (changeBy accept) records, fun k => ?_⟩
    have hfilter := (hperm order horder).filter (key · == k)
    have hfold : (order.filter (key · == k)).foldl (changeBy accept) factory =
        (records.filter (key · == k)).foldl (changeBy accept) factory := by
      refine hfilter.foldl_eq' (fun r hr s hs a => hcomm a r s ?_) factory
      exact BEq.trans (List.mem_filter.1 hr).2 (BEq.symm (List.mem_filter.1 hs).2)
    have hany : order.any (key · == k) = records.any (key · == k) := (hperm order horder).any_eq
    rw [hsame.get?_eq, get?_group, get?_group, hfold, hany]

theorem shared_loses_no_update_inPairs :
    let records : List (String × Int) := [("a", 1), ("b", 10), ("a", 2), ("a", 3), ("b", 20)]
    let accept : String × Int → StateM Int Unit := fun r => modify (· + r.2)
    inPairs.failpoints.armed .batchAccept = false ∧
    Plannable records.length inPairs.batchSize ∧ inPairs.lockShards ≤ shardCapacity ∧
    (∃ (g : GroupMap String Int) (order : List (String × Int)) (seed : String → Nat),
      (inPairs.aggregateInPlaceBy (fun r => pure r.1) (numbered Int.ofNat) accept records).run 0 =
        .ok (g, g.size) ∧
      Seeded Int.ofNat Prod.fst (changeBy accept) order g seed) ∧
    ∃ g : GroupMap String Int,
      inPairs.aggregateInPlaceBy (m := Except Abort) (fun r => .ok r.1) (.ok 0) accept records =
        .ok g ∧
      g.get? "a" = some 6 ∧ g.get? "b" = some 30 ∧ g.get? "c" = none := by
  intro records accept
  have hplannable : Plannable records.length inPairs.batchSize := by decide
  have hshards : inPairs.lockShards ≤ shardCapacity := by decide
  obtain ⟨hnumbered, hserial⟩ :=
    shared_loses_no_update inPairs rfl Prod.fst accept records hplannable hshards
  obtain ⟨_, order, -, -, -, -, g, seed, hrun, -, hseed⟩ := hnumbered Int.ofNat
  obtain ⟨h, h', hh, hh', hget⟩ := hserial (fun a r s _ => add_right_comm a r.2 s.2) 0
  refine ⟨rfl, hplannable, hshards, ⟨g, order, seed, hrun, hseed⟩, h, hh, ?_⟩
  obtain rfl := Except.ok.inj hh'
  exact ⟨hget "a", hget "b", hget "c"⟩

end ParallelAggregator

end Groupwise
