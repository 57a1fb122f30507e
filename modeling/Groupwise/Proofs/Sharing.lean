import Groupwise.Proofs.Collecting
import Groupwise.Proofs.Interleaving
import Groupwise.Proofs.Lockstep

/-!
# A shared map loses no update

A shared map mirrors a plain one if its shards hold, each key in its own shard, the entries of the
plain map. A step of a worker either leaves the map as it is or does what a serial run does with one
record (`SharedTask.lockstep_step`): a worker that misses a key under the read lock has done nothing
yet, and under the write lock it takes the accumulator that another worker may have inserted in the
meantime. By induction over the turns, a run of the workers is a serial run over an interleaving
of the batches (`SharedTask.lockstep_run`).
-/

namespace Groupwise

variable {R K A : Type} [BEq K]

/-! ### One record of a serial run -/

section

variable {m : Type → Type} [Monad m]

/-- One record under the key `k`, its starting value asked for only if there is none yet. -/
def GroupMap.settle (g : GroupMap K A) (k : K) (factory : m A) (f : A → A) : m (GroupMap K A) := do
  let g ← g.ensure k factory
  return g.modify k f

lemma acceptStep_eq_settle [LawfulMonad m] (key : R → K) (factory : m A)
    (accept : R → StateM A Unit) (g : GroupMap K A) (r : R) :
    acceptStep (fun r => (pure (key r) : m K)) factory accept g r =
      g.settle (key r) factory (changeBy accept · r) := by
  rw [acceptStep, pure_bind]
  rfl

end

/-! ### Shards -/

namespace GroupMap

lemma entries_ofList {es : List (K × A)} (h : Entries.Distinct es) : (ofList es).entries = es := by
  induction es using List.reverseRecOn with
  | nil => rfl
  | append_singleton es e ih =>
    obtain ⟨hes, -, he⟩ := List.pairwise_append.1 h
    have hnew : (ofList es).find? e.1 = none := by
      rw [GroupMap.find?, ih hes, Entries.find?_eq_none]
      exact fun d hd => he d hd e (by simp)
    have hsnoc : ofList (es ++ [e]) = (ofList es).insert e.1 e.2 := by simp [ofList]
    rw [hsnoc, insert, contains_eq, hnew, Option.isSome_none, if_neg Bool.false_ne_true,
      entries_insertNew hnew, ih hes]

end GroupMap

namespace SharedMap

lemma index_congr (s : SharedMap K A) {k l : K} (h : (k == l) = true) : s.index k = s.index l := by
  rw [index, index, s.spread.hash_eq k l h]

@[simp] lemma index_setShard (s : SharedMap K A) (k : K) (shard : GroupMap K A) (j : K) :
    (s.setShard k shard).index j = s.index j := by
  simp [setShard, index]

/-- The shards of `s` hold the entries of `g`, each key in its own shard only. -/
structure Mirrors (s : SharedMap K A) (g : GroupMap K A) : Prop where
  nonempty : 0 < s.shards.length
  home : ∀ (i : Nat) (shard : GroupMap K A), s.shards[i]? = some shard →
    ∀ k, shard.contains k = true → s.index k = i
  agree : ∀ k, (s.shard k).find? k = g.find? k

lemma one_le_shardCapacity : 1 ≤ shardCapacity := by decide

/-- There is no map with more shards than there is room for. -/
lemma new_of_lt {n : Nat} (h : shardCapacity < n) (spread : KeyHash K) :
    (new spread n : Except Trap (SharedMap K A)) = .error .capacity :=
  if_pos (lt_max_of_lt_left h)

/-- A new map mirrors the empty one. -/
lemma exists_new {n : Nat} (h : n ≤ shardCapacity) (spread : KeyHash K) :
    ∃ s : SharedMap K A, new spread n = .ok s ∧ s.Mirrors ∅ := by
  let s : SharedMap K A := ⟨spread, List.replicate (max n 1) ∅⟩
  have hempty : ∀ (i : Nat) (shard : GroupMap K A), s.shards[i]? = some shard → shard = ∅ := by
    intro i shard h
    exact List.eq_of_mem_replicate (List.mem_of_getElem? h)
  refine ⟨s, if_neg (not_lt.2 (max_le h one_le_shardCapacity)), ⟨by simp [s], ?_, ?_⟩⟩
  · rintro i shard h k hk
    rw [hempty i shard h] at hk
    exact absurd hk (by simp [GroupMap.contains_eq])
  · intro k
    rw [shard, List.getD_eq_getElem?_getD]
    cases h : s.shards[s.index k]? with
    | none => rfl
    | some shard =>
      rw [hempty _ shard h]
      rfl

namespace Mirrors

variable {s : SharedMap K A} {g : GroupMap K A}

lemma index_lt (h : s.Mirrors g) (k : K) : s.index k < s.shards.length := Nat.mod_lt _ h.nonempty

lemma getElem?_index (h : s.Mirrors g) (k : K) : s.shards[s.index k]? = some (s.shard k) := by
  rw [shard, List.getD_eq_getElem?_getD, List.getElem?_eq_getElem (h.index_lt k)]
  rfl

lemma contains_eq (h : s.Mirrors g) (k : K) : (s.shard k).contains k = g.contains k := by
  rw [GroupMap.contains_eq, h.agree, GroupMap.contains_eq]

lemma shard_setShard (h : s.Mirrors g) (k j : K) (shard : GroupMap K A) :
    (s.setShard k shard).shard j = if s.index k = s.index j then shard else s.shard j := by
  rw [SharedMap.shard, index_setShard, List.getD_eq_getElem?_getD]
  simp only [setShard]
  split_ifs with hkj
  · rw [← hkj, List.getElem?_set_self (h.index_lt k), Option.getD_some]
  · rw [List.getElem?_set_ne hkj, h.getElem?_index, Option.getD_some]

variable [EquivBEq K]

/-- One record, in the shard of its key and in the plain map. -/
lemma upsert (h : s.Mirrors g) (k : K) (a : A) (f : A → A) :
    (s.setShard k ((s.shard k).upsert k a f)).Mirrors (g.upsert k a f) := by
  refine ⟨by simpa [setShard] using h.nonempty, ?_, ?_⟩
  · intro i shard hi j hj
    rw [index_setShard]
    rw [setShard, List.getElem?_set] at hi
    split_ifs at hi with hik hlt
    · -- the shard that changed: a key of it is `k` or was there before
      obtain rfl : (s.shard k).upsert k a f = shard := by simpa using hi
      rw [GroupMap.contains_upsert, Bool.or_eq_true] at hj
      rcases hj with hkj | hj
      · rw [← s.index_congr hkj, hik]
      · exact hik ▸ h.home _ _ (h.getElem?_index k) j hj
    · exact h.home i shard hi j hj
  · intro j
    rw [h.shard_setShard]
    by_cases hkj : k == j
    · rw [if_pos (s.index_congr hkj), GroupMap.find?_upsert, GroupMap.find?_upsert, if_pos hkj,
        if_pos hkj, h.agree]
    · rw [GroupMap.find?_upsert, if_neg hkj, ← h.agree j]
      split_ifs with hij
      · rw [GroupMap.find?_upsert, if_neg hkj, shard, shard, hij]
      · rfl

lemma distinct_entries (h : s.Mirrors g) :
    Entries.Distinct (s.shards.flatMap GroupMap.entries) := by
  refine List.pairwise_flatMap.2 ⟨fun shard _ => shard.distinct, ?_⟩
  refine List.pairwise_iff_getElem.2 fun i j hi hj hij d hd e he => ?_
  -- entries with equal keys would have one home
  have hdi : s.index d.1 = i :=
    h.home i _ (List.getElem?_eq_getElem hi) d.1 (GroupMap.contains_of_mem hd)
  have hej : s.index e.1 = j :=
    h.home j _ (List.getElem?_eq_getElem hj) e.1 (GroupMap.contains_of_mem he)
  by_contra hde
  have hindex := s.index_congr (eq_true_of_ne_false hde)
  omega

/-- The entries of all shards are those of the plain map, so none of them overwrites another. -/
theorem toMap (h : s.Mirrors g) : GroupMap.SameEntries s.toMap g := by
  intro k
  ext e
  rw [← h.agree, GroupMap.find?_eq_some_iff, GroupMap.find?_eq_some_iff, SharedMap.toMap,
    GroupMap.entries_ofList h.distinct_entries, List.mem_flatMap]
  constructor
  · rintro ⟨⟨shard, hshard, he⟩, hek⟩
    obtain ⟨i, hi⟩ := List.mem_iff_getElem?.1 hshard
    have hik : s.index k = i := by
      rw [← s.index_congr hek]
      exact h.home i shard hi e.1 (GroupMap.contains_of_mem he)
    obtain rfl : s.shard k = shard := by
      have hk := h.getElem?_index k
      rw [hik, hi] at hk
      exact (Option.some.inj hk).symm
    exact ⟨he, hek⟩
  · rintro ⟨he, hek⟩
    exact ⟨⟨s.shard k, List.mem_of_getElem? (h.getElem?_index k), he⟩, hek⟩

end Mirrors

/-! ### The steps of a worker -/

section

variable {m : Type → Type} [Monad m] [LawfulMonad m] [EquivBEq K]

/-- The map mirrors `g`, which has keys for the classes that `known` tells. -/
def MirrorsOn (known : K → Bool) (s : SharedMap K A) (g : GroupMap K A) : Prop :=
  s.Mirrors g ∧ ∀ k, g.contains k = known k

namespace MirrorsOn

variable {known : K → Bool} {s : SharedMap K A} {g : GroupMap K A}

omit [EquivBEq K] in
lemma contains_eq (h : MirrorsOn known s g) (k : K) : (s.shard k).contains k = known k := by
  rw [h.1.contains_eq, h.2]

/-- Under the write lock: the starting value is asked for on both sides or on neither. -/
lemma updateOrInsert (h : MirrorsOn known s g) (k : K) (factory : m A) (f : A → A) :
    Lockstep (MirrorsOn fun j => k == j || known j) (s.updateOrInsert k factory f)
      (g.settle k factory f) := by
  have hup : ∀ a, MirrorsOn (fun j => k == j || known j)
      (s.setShard k ((s.shard k).upsert k a f)) (g.upsert k a f) := by
    intro a
    refine ⟨h.1.upsert k a f, fun j => ?_⟩
    rw [g.contains_upsert, h.2]
  simp only [SharedMap.updateOrInsert, GroupMap.settle, GroupMap.ensure, h.contains_eq, h.2]
  cases hk : known k with
  | true =>
    obtain ⟨e, he⟩ := Option.isSome_iff_exists.1 ((h.2 k).trans hk)
    have hgo := hup e.2
    rw [GroupMap.upsert_of_contains ((h.2 k).trans hk),
      GroupMap.upsert_of_contains ((h.contains_eq k).trans hk)] at hgo
    simpa using Lockstep.pure hgo
  | false =>
    have hgo : ∀ a b, a = b → MirrorsOn (fun j => k == j || known j)
        (s.setShard k (((s.shard k).insertNew k a).modify k f)) ((g.insertNew k b).modify k f) := by
      rintro a _ rfl
      rw [← GroupMap.upsert_of_not_contains ((h.2 k).trans hk),
        ← GroupMap.upsert_of_not_contains ((h.contains_eq k).trans hk)]
      exact hup a
    simp only [Bool.false_eq_true, if_false, bind_assoc, pure_bind]
    exact (Lockstep.same (fun _ => rfl) factory).bind fun a b hab => .pure (hgo a b hab)

/-- Under the read lock, where the key has an accumulator. -/
lemma updateExisting (h : MirrorsOn known s g) {k : K} (hk : known k = true) (factory : m A)
    (f : A → A) :
    ∃ s', s.updateExisting k f = some s' ∧
      Lockstep (MirrorsOn fun j => k == j || known j) (pure s' : m (SharedMap K A))
        (g.settle k factory f) := by
  have hs : (s.shard k).contains k = true := (h.contains_eq k).trans hk
  have hup := h.updateOrInsert k factory f
  rw [SharedMap.updateOrInsert, GroupMap.ensure, if_pos hs, pure_bind] at hup
  exact ⟨_, by rw [SharedMap.updateExisting, if_pos hs], hup⟩

omit [EquivBEq K] in
/-- Under the read lock, where the key has none. -/
lemma updateExisting_eq_none (h : MirrorsOn known s g) {k : K} (hk : known k = false) (f : A → A) :
    s.updateExisting k f = none := by
  rw [SharedMap.updateExisting, h.contains_eq, hk, if_neg Bool.false_ne_true]

end MirrorsOn

/-- A record taken in without any other worker between the two locks. -/
lemma Mirrors.accept {s : SharedMap K A} {g : GroupMap K A} (h : s.Mirrors g) (k : K)
    (factory : m A) (f : A → A) :
    Lockstep Mirrors (s.accept k factory f) (g.settle k factory f) := by
  have hon : MirrorsOn g.contains s g := ⟨h, fun _ => rfl⟩
  rw [SharedMap.accept]
  cases hk : g.contains k with
  | true =>
    obtain ⟨s', hs', hup⟩ := hon.updateExisting hk factory f
    rw [hs']
    exact hup.mono fun _ _ h => h.1
  | false =>
    rw [hon.updateExisting_eq_none hk]
    exact (hon.updateOrInsert k factory f).mono fun _ _ h => h.1

end

end SharedMap

/-! ### Workers -/

/-- A worker that comes back under the write lock comes back with the key of its next record. -/
def SharedWorker.Steady (key : R → K) (w : SharedWorker R K) : Prop :=
  ∀ k, w.phase = .missed k → ∃ r rest, w.rest = r :: rest ∧ key r = k

namespace SharedTask

open SharedMap (Mirrors MirrorsOn)

variable {m : Type → Type} [Monad m] (key : R → K) (factory : m A) (accept : R → StateM A Unit)

/-- A task whose batches begin without effects and whose keys have none. -/
def quiet : SharedTask m R K A := ⟨pure (), fun r => pure (key r), factory, accept⟩

/-- One record of the serial run that a quiet task is compared with. -/
abbrev settle (g : GroupMap K A) (r : R) : m (GroupMap K A) :=
  g.settle (key r) factory (changeBy accept · r)

/-- The worker now stands as `w`, and its map mirrors the plain one. -/
def Stands {α : Type} (known : K → Bool) (w : α) (p : SharedMap K A × α) (g : GroupMap K A) :
    Prop :=
  p.2 = w ∧ MirrorsOn known p.1 g

variable [LawfulMonad m]

section

variable (s : SharedMap K A) (r : R) (rest : List R)

lemma step_waiting : (quiet key factory accept).step s ⟨.waiting, rest⟩ =
    pure (s, ⟨.reading, rest⟩) := by
  simp [step, quiet]

lemma step_reading : (quiet key factory accept).step s ⟨.reading, r :: rest⟩ =
    match s.updateExisting (key r) (changeBy accept · r) with
    | some s => pure (s, ⟨.reading, rest⟩)
    | none => pure (s, ⟨.missed (key r), r :: rest⟩) := by
  simp only [step, quiet, pure_bind]
  rfl

omit [LawfulMonad m] in
lemma step_missed (k : K) : (quiet key factory accept).step s ⟨.missed k, r :: rest⟩ =
    s.updateOrInsert k factory (changeBy accept · r) >>= fun s => pure (s, ⟨.reading, rest⟩) := rfl

end

/-- A worker that has taken in one record. -/
lemma lockstep_take {known : K → Bool} {x : m (SharedMap K A)} {g : GroupMap K A} {r : R}
    (h : Lockstep (MirrorsOn known) x (settle key factory accept g r)) (w : SharedWorker R K) :
    Lockstep (Stands known w) (x >>= fun s => pure (s, w))
      ([r].foldlM (settle key factory accept) g) := by
  rw [List.foldlM_cons]
  exact h.bind fun s g hsg => .pure ⟨rfl, hsg⟩

variable [EquivBEq K]

/-- One step of a worker takes in its next record or none, and which of the two it is depends only
on the keys that are known already. -/
lemma lockstep_step (known : K → Bool) {w : SharedWorker R K} (hw : w.Steady key) :
    ∃ (done : List R) (w' : SharedWorker R K) (known' : K → Bool),
      w.rest = done ++ w'.rest ∧ w'.Steady key ∧
      ∀ s g, MirrorsOn known s g →
        Lockstep (Stands known' w') ((quiet key factory accept).step s w)
          (done.foldlM (settle key factory accept) g) := by
  obtain ⟨phase, rest⟩ := w
  cases phase with
  | waiting =>
    refine ⟨[], ⟨.reading, rest⟩, known, rfl, by rintro k ⟨⟩, fun s g h => ?_⟩
    rw [step_waiting]
    exact .pure ⟨rfl, h⟩
  | reading =>
    cases rest with
    | nil => exact ⟨[], ⟨.reading, []⟩, known, rfl, hw, fun s g h => .pure ⟨rfl, h⟩⟩
    | cons r rest =>
      cases hr : known (key r) with
      | true =>
        refine ⟨[r], ⟨.reading, rest⟩, fun j => key r == j || known j, rfl, by rintro k ⟨⟩,
          fun s g h => ?_⟩
        obtain ⟨s', hs', hup⟩ := h.updateExisting hr factory (changeBy accept · r)
        have htake := lockstep_take key factory accept hup ⟨.reading, rest⟩
        rw [pure_bind] at htake
        rw [step_reading, hs']
        exact htake
      | false =>
        refine ⟨[], ⟨.missed (key r), r :: rest⟩, known, rfl, ?_, fun s g h => ?_⟩
        · rintro k ⟨⟩
          exact ⟨r, rest, rfl, rfl⟩
        · rw [step_reading, h.updateExisting_eq_none hr]
          exact .pure ⟨rfl, h⟩
  | missed k =>
    obtain ⟨r, rest, rfl, rfl⟩ := hw k rfl
    refine ⟨[r], ⟨.reading, rest⟩, fun j => key r == j || known j, rfl, by rintro k ⟨⟩,
      fun s g h => ?_⟩
    rw [step_missed]
    exact lockstep_take key factory accept (h.updateOrInsert (key r) factory _) ⟨.reading, rest⟩

/-- The turns of all workers take in the front of an interleaving of what is left of their
batches. -/
lemma lockstep_turns (turns : List Nat) (known : K → Bool) {ws : List (SharedWorker R K)}
    (hws : ∀ w ∈ ws, w.Steady key) :
    ∃ (done : List R) (ws' : List (SharedWorker R K)) (known' : K → Bool),
      (∀ rest, Interleaving (ws'.map (·.rest)) rest →
        Interleaving (ws.map (·.rest)) (done ++ rest)) ∧
      (∀ w ∈ ws', w.Steady key) ∧
      ∀ s g, MirrorsOn known s g →
        Lockstep (Stands known' ws') (turns.foldlM (quiet key factory accept).turn (s, ws))
          (done.foldlM (settle key factory accept) g) := by
  induction turns generalizing known ws with
  | nil => exact ⟨[], ws, known, fun _ h => h, hws, fun s g h => .pure ⟨rfl, h⟩⟩
  | cons i turns ih =>
    cases hi : ws[i]? with
    | none =>
      obtain ⟨done, ws', known', hrest, hws', hgo⟩ := ih known hws
      refine ⟨done, ws', known', hrest, hws', fun s g h => ?_⟩
      simpa [turn, hi] using hgo s g h
    | some w =>
      obtain ⟨first, w', known₁, hw, hw', hstep⟩ :=
        lockstep_step key factory accept known (hws w (List.mem_of_getElem? hi))
      have hset : ∀ v ∈ ws.set i w', v.Steady key := by
        intro v hv
        rcases List.mem_or_eq_of_mem_set hv with hv | rfl
        · exact hws v hv
        · exact hw'
      obtain ⟨done, ws', known', hrest, hws', hgo⟩ := ih known₁ hset
      refine ⟨first ++ done, ws', known', fun rest h => ?_, hws', fun s g h => ?_⟩
      · rw [List.append_assoc]
        refine .take_append (i := i) (l := w'.rest) (by simp [hi, hw]) ?_
        rw [← List.map_set]
        exact hrest rest h
      · have hturn : (quiet key factory accept).turn (s, ws) i =
            (quiet key factory accept).step s w >>= fun p => pure (p.1, ws.set i p.2) := by
          simp only [turn, hi]
        rw [List.foldlM_cons, List.foldlM_append, hturn, bind_assoc]
        refine (hstep s g h).bind ?_
        rintro ⟨s', v⟩ g' ⟨rfl, h'⟩
        rw [pure_bind]
        exact hgo s' g' h'

lemma lockstep_finish_reading (rest : List R) {s : SharedMap K A} {g : GroupMap K A}
    (h : s.Mirrors g) :
    Lockstep Mirrors ((quiet key factory accept).finish s ⟨.reading, rest⟩)
      (rest.foldlM (settle key factory accept) g) := by
  rw [finish, pure_bind]
  refine Lockstep.foldlM (fun s g r h => ?_) rest h
  rw [quiet, pure_bind]
  exact h.accept (key r) factory _

/-- What a worker does alone takes in what is left of its batch. -/
lemma lockstep_finish {w : SharedWorker R K} (hw : w.Steady key) {s : SharedMap K A}
    {g : GroupMap K A} (h : s.Mirrors g) :
    Lockstep Mirrors ((quiet key factory accept).finish s w)
      (w.rest.foldlM (settle key factory accept) g) := by
  obtain ⟨first, w', known, hfirst, -, hstep⟩ := lockstep_step key factory accept g.contains hw
  -- a worker that is not reading steps once more and reads on
  have hgo : Lockstep Mirrors
      ((quiet key factory accept).step s w >>= fun p =>
        (quiet key factory accept).finish p.1 ⟨.reading, p.2.rest⟩)
      (w.rest.foldlM (settle key factory accept) g) := by
    rw [hfirst, List.foldlM_append]
    refine (hstep s g ⟨h, fun _ => rfl⟩).bind ?_
    rintro ⟨s', v⟩ g' ⟨rfl, h'⟩
    exact lockstep_finish_reading key factory accept v.rest h'.1
  simp only [finish, pure_bind] at hgo
  obtain ⟨phase, rest⟩ := w
  cases phase with
  | reading => exact lockstep_finish_reading key factory accept rest h
  | waiting | missed k => exact hgo

lemma lockstep_finish_all {ws : List (SharedWorker R K)} (hws : ∀ w ∈ ws, w.Steady key)
    {s : SharedMap K A} {g : GroupMap K A} (h : s.Mirrors g) :
    Lockstep Mirrors (ws.foldlM (quiet key factory accept).finish s)
      ((ws.map (·.rest)).flatten.foldlM (settle key factory accept) g) := by
  induction ws generalizing s g with
  | nil => exact .pure h
  | cons w ws ih =>
    rw [List.map_cons, List.flatten_cons, List.foldlM_append, List.foldlM_cons]
    exact (lockstep_finish key factory accept (hws w (by simp)) h).bind fun s g h =>
      ih (fun v hv => hws v (by simp [hv])) h

/-- A run of the workers on an empty map is a serial run over an interleaving of their batches. -/
theorem lockstep_run (turns : List Nat) (batches : List (List R)) :
    ∃ order, Interleaving batches order ∧ ∀ s : SharedMap K A, s.Mirrors ∅ →
      Lockstep Mirrors ((quiet key factory accept).run s turns batches)
        (aggregateInPlaceBy (fun r => pure (key r)) factory accept order) := by
  have hwaiting : ∀ w ∈ batches.map fun rest => (⟨.waiting, rest⟩ : SharedWorker R K),
      w.Steady key := by
    intro w hw
    obtain ⟨rest, -, rfl⟩ := List.mem_map.1 hw
    rintro k ⟨⟩
  obtain ⟨done, ws, known, hrest, hws, hturns⟩ :=
    lockstep_turns key factory accept turns (fun _ => false) hwaiting
  refine ⟨done ++ (ws.map (·.rest)).flatten, ?_, fun s hs => ?_⟩
  · simpa [Function.comp_def] using hrest _ (.flatten _)
  · have hstep : acceptStep (fun r => (pure (key r) : m K)) factory accept =
        settle key factory accept := by
      funext g r
      exact acceptStep_eq_settle key factory accept g r
    rw [aggregateInPlaceBy, hstep, List.foldlM_append, run]
    refine (hturns _ ∅ ⟨hs, fun _ => rfl⟩).bind ?_
    rintro ⟨s, v⟩ g ⟨rfl, h⟩
    exact lockstep_finish_all key factory accept hws h.1

end SharedTask

/-! ### Runs on a shared map -/

namespace ParallelAggregator

variable [EquivBEq K] {records : List R} {plan : BatchPlan}

/-- A run on a shared map and a serial run over an interleaving of the batches have the same effects
and find the same entries. -/
lemma lockstep_serial {m : Type → Type} [Monad m] [LawfulMonad m] [MonadExceptOf Abort m]
    (p : ParallelAggregator K) (hp : p.failpoints.armed .batchAccept = false)
    (hplan : p.plan records.length = .ok plan) (hshards : p.lockShards ≤ shardCapacity)
    (key : R → K) (factory : m A) (accept : R → StateM A Unit) :
    ∃ order, Interleaving (plan.batches.map (·.slice records)) order ∧
      Lockstep GroupMap.SameEntries
        (p.aggregateInPlaceBy (fun r => pure (key r)) factory accept records)
        (Groupwise.aggregateInPlaceBy (fun r => pure (key r)) factory accept order) := by
  obtain ⟨order, horder, hrun⟩ := SharedTask.lockstep_run key factory accept p.schedule.turns
    (plan.batches.map (·.slice records))
  obtain ⟨s, hs, hmirrors⟩ := SharedMap.exists_new (A := A) hshards p.schedule.spread
  refine ⟨order, horder, ?_⟩
  have hmap := (hrun s hmirrors).map (f := SharedMap.toMap) (g := id) fun s g h => h.toMap
  simpa [aggregateInPlaceBy, hplan, hs, Failpoints.pass, hp, SharedTask.quiet] using hmap

/-- A run on a shared map of values without effects finds the entries of a serial run over an
interleaving of the batches. -/
lemma exists_sameEntries (p : ParallelAggregator K) (hp : p.failpoints.armed .batchAccept = false)
    (hplan : p.plan records.length = .ok plan) (hshards : p.lockShards ≤ shardCapacity)
    (key : R → K) (factory : A) (accept : R → StateM A Unit) :
    ∃ order, Interleaving (plan.batches.map (·.slice records)) order ∧
      ∃ g : GroupMap K A,
        p.aggregateInPlaceBy (m := Except Abort) (fun r => .ok (key r)) (.ok factory) accept
          records = .ok g ∧
        g.SameEntries (group key factory (changeBy accept) order) := by
  obtain ⟨order, horder, hrun⟩ :=
    p.lockstep_serial (m := Except Abort) hp hplan hshards key (pure factory) accept
  rw [aggregateInPlaceBy_eq, aggregateBy_pure] at hrun
  exact ⟨order, horder, hrun.of_ok⟩

end ParallelAggregator

end Groupwise
