import Groupwise.Proofs.Cutting
import Groupwise.Proofs.Trimming

/-!
# Runs that are broken off

A point is armed if the text lists its name: between commas or the ends of the text, and with no
more than blanks around it (`Failpoints.lists_iff_between_commas`). A parallel run breaks off at the
point of its style if that point is armed and there is a batch to pass it; nothing else makes it
break off, and otherwise it is the run without failpoints (`Aggregation.parallel_breaksOff`).

What callers are asked for may have effects of any kind, in a lawful monad `n`, but does not break
off by itself; runs are in `ExceptT Abort n`. A computation is `Calm` if it never breaks off.
-/

namespace Groupwise

/-! ### Items between commas -/

section

variable {α : Type} [DecidableEq α] {c : α} {item l : List α}

/-- The items of a list are its parts without separators between separators or its ends. -/
lemma mem_splitOn_iff : item ∈ l.splitOn c ↔
    c ∉ item ∧ ∃ front back, l = front ++ (item ++ back) ∧ (front = [] ∨ [c] <:+ front) ∧
      (back = [] ∨ [c] <+: back) := by
  constructor
  · -- by the first separator, if there is one
    induction hn : l.length using Nat.strong_induction_on generalizing l with
    | _ n ih =>
    intro hitem
    by_cases hc : c ∈ l
    · obtain ⟨first, rest, rfl, hfirst⟩ := List.eq_append_cons_of_mem hc
      rw [List.splitOn_append_cons_self, List.splitOn_eq_singleton hfirst, List.singleton_append,
        List.mem_cons] at hitem
      rcases hitem with rfl | hitem
      · exact ⟨hfirst, [], c :: rest, rfl, .inl rfl, .inr ⟨rest, rfl⟩⟩
      · have hlt : rest.length < n := by
          rw [← hn, List.length_append, List.length_cons]
          omega
        obtain ⟨hnone, front, back, rfl, hfront, hback⟩ := ih _ hlt rfl hitem
        refine ⟨hnone, first ++ c :: front, back, by simp, .inr ?_, hback⟩
        rcases hfront with rfl | ⟨front, rfl⟩
        · exact ⟨first, rfl⟩
        · exact ⟨first ++ c :: front, by simp⟩
    · rw [List.splitOn_eq_singleton hc, List.mem_singleton] at hitem
      subst hitem
      exact ⟨hc, [], [], by simp, .inl rfl, .inl rfl⟩
  · rintro ⟨hitem, front, back, rfl, hfront, hback⟩
    have hlast : item ∈ (item ++ back).splitOn c := by
      rcases hback with rfl | ⟨back, rfl⟩
      · rw [List.append_nil, List.splitOn_eq_singleton hitem]
        exact List.mem_singleton_self item
      · rw [List.singleton_append, List.splitOn_append_cons_self, List.splitOn_eq_singleton hitem]
        exact List.mem_append_left _ (List.mem_singleton_self item)
    rcases hfront with rfl | ⟨front, rfl⟩
    · exact hlast
    · rw [List.append_assoc, List.singleton_append, List.splitOn_append_cons_self]
      exact List.mem_append_right _ hlast

end

namespace Text

variable {s t : List Char}

/-- Trimming takes off blanks, and nothing but blanks. -/
lemma trim_eq_iff (h : Bare isBlank t) : trim s = t ↔
    ∃ before after, s = before ++ (t ++ after) ∧ (∀ c ∈ before, isBlank c = true) ∧
      ∀ c ∈ after, isBlank c = true := by
  constructor
  · rintro rfl
    refine ⟨s.takeWhile isBlank, ((trimFront s).reverse.takeWhile isBlank).reverse, ?_,
      fun c hc => List.mem_takeWhile_imp hc, fun c hc => ?_⟩
    · rw [trim, trimBack, ← List.reverse_append, List.takeWhile_append_dropWhile,
        List.reverse_reverse, trimFront, List.takeWhile_append_dropWhile]
    · exact List.mem_takeWhile_imp (List.mem_reverse.1 hc)
  · rintro ⟨before, after, rfl, hbefore, hafter⟩
    have hafter' : ∀ c ∈ after.reverse, isBlank c = true := fun c hc =>
      hafter c (List.mem_reverse.1 hc)
    have hlast : ∀ c ∈ t.reverse.head?, isBlank c = false := fun c hc =>
      h.2 c (by rwa [List.head?_reverse] at hc)
    rw [trim, trimFront, List.dropWhile_append_of_pos hbefore]
    cases t with
    | nil => rw [List.nil_append, List.dropWhile_eq_nil_iff.2 hafter]; rfl
    | cons a t =>
      rw [List.cons_append, dropWhile_eq_self (l := a :: (t ++ after)) h.1, ← List.cons_append,
        trimBack, List.reverse_append, List.dropWhile_append_of_pos hafter',
        dropWhile_eq_self hlast, List.reverse_reverse]

end Text

namespace Failpoints

variable {f : Failpoints} {p : Failpoint}

/-- An item between the commas of the text is the name of the point, blanks around it aside. -/
def Lists (f : Failpoints) (p : Failpoint) : Prop :=
  ∃ text, f.text = some text ∧ ∃ item ∈ text.toList.splitOn ',', Text.trim item = p.name.toList

lemma armed_iff : f.armed p = true ↔ f.Lists p := by
  obtain ⟨_ | text⟩ := f <;> simp [armed, Lists]

instance : Decidable (f.Lists p) := decidable_of_iff _ armed_iff

/-- A point is listed if its name, with no more than blanks around it, stands between commas or
the ends of the text. Names that are part of other words do not count. -/
theorem lists_iff_between_commas : f.Lists p ↔ ∃ text, f.text = some text ∧
    ∃ front before after back, text.toList = front ++ (before ++ (p.name.toList ++ after) ++ back) ∧
      (front = [] ∨ [','] <:+ front) ∧ (back = [] ∨ [','] <+: back) ∧
      (∀ c ∈ before, Text.isBlank c = true) ∧ ∀ c ∈ after, Text.isBlank c = true := by
  have hbare : Bare Text.isBlank p.name.toList := by cases p <;> decide
  have hname : ',' ∉ p.name.toList := by cases p <;> decide
  have hblank : ∀ cs : List Char, (∀ c ∈ cs, Text.isBlank c = true) → ',' ∉ cs := fun cs h hc =>
    absurd (h ',' hc) (by decide)
  simp only [Lists, mem_splitOn_iff, Text.trim_eq_iff hbare]
  constructor
  · rintro ⟨text, htext, item, ⟨-, front, back, hsplit, hfront, hback⟩, before, after, rfl, hbefore,
      hafter⟩
    exact ⟨text, htext, front, before, after, back, hsplit, hfront, hback, hbefore, hafter⟩
  · rintro ⟨text, htext, front, before, after, back, hsplit, hfront, hback, hbefore, hafter⟩
    refine ⟨text, htext, _, ⟨?_, front, back, hsplit, hfront, hback⟩, before, after, rfl, hbefore,
      hafter⟩
    simp only [List.mem_append, not_or]
    exact ⟨hblank before hbefore, hname, hblank after hafter⟩

example :
    let f : Failpoints := ⟨some "panic_batch_folds,, panic_batch_accept ,x"⟩
    f.armed .batchAccept = true ∧ f.armed .batchFold = false := by
  decide

variable {n : Type → Type} [Monad n]

lemma pass_of_lists (h : f.Lists p) : f.pass p = (throw (.failpoint p) : ExceptT Abort n Unit) :=
  if_pos (armed_iff.2 h)

lemma pass_of_not_lists (h : ¬ f.Lists p) : f.pass p = (pure () : ExceptT Abort n Unit) :=
  if_neg (mt armed_iff.1 h)

end Failpoints

/-! ### Breaking off -/

section

variable {n : Type → Type} [Monad n] {α β : Type}

/-- The computation does not break off. -/
def Calm (x : ExceptT Abort n α) : Prop := ∃ y : n α, x = ExceptT.lift y

lemma Calm.lift (y : n α) : Calm (ExceptT.lift y) := ⟨y, rfl⟩

lemma Reduction.mapM_congr {f g : α → ExceptT Abort n β} {t : Reduction α}
    (h : ∀ a ∈ t.leaves, f a = g a) : t.mapM f = t.mapM g := by
  induction t with
  | identity => rfl
  | part a => rw [mapM, mapM, h a (by simp)]
  | join l r hl hr =>
    rw [mapM, mapM, hl fun a ha => h a (by simp [ha]), hr fun a ha => h a (by simp [ha])]

variable [LawfulMonad n]

lemma throw_bind (e : Abort) (f : α → ExceptT Abort n β) : (throw e >>= f) = throw e := by
  refine ExceptT.ext ?_
  rw [ExceptT.run_bind, ExceptT.run_throw, pure_bind, ExceptT.run_throw]

namespace Calm

lemma pure (a : α) : Calm (Pure.pure a : ExceptT Abort n α) :=
  ⟨Pure.pure a, ExceptT.ext (by rw [ExceptT.run_lift, map_pure, ExceptT.run_pure])⟩

lemma bind {x : ExceptT Abort n α} {f : α → ExceptT Abort n β} (hx : Calm x)
    (hf : ∀ a, Calm (f a)) : Calm (x >>= f) := by
  obtain ⟨y, rfl⟩ := hx
  choose g hg using hf
  refine ⟨y >>= g, ExceptT.ext ?_⟩
  simp only [ExceptT.run_bind_lift, hg, ExceptT.run_lift, map_bind]

lemma foldlM {f : β → α → ExceptT Abort n β} (hf : ∀ b a, Calm (f b a)) (l : List α) (b : β) :
    Calm (l.foldlM f b) := by
  induction l generalizing b with
  | nil => exact .pure b
  | cons a l ih => exact (hf b a).bind ih

end Calm

namespace Reduction

lemma calm_mapM {f : α → ExceptT Abort n β} (hf : ∀ a, Calm (f a)) (t : Reduction α) :
    Calm (t.mapM f) := by
  induction t with
  | identity => exact .pure _
  | part a => exact (hf a).bind fun _ => .pure _
  | join l r hl hr => exact hl.bind fun _ => hr.bind fun _ => .pure _

lemma mapM_throw_cases (e : Abort) (t : Reduction α) :
    (t.leaves = [] ∧
        ∃ t' : Reduction β, t.mapM (fun _ => (throw e : ExceptT Abort n β)) = pure t') ∨
      (t.leaves ≠ [] ∧ t.mapM (fun _ => (throw e : ExceptT Abort n β)) = throw e) := by
  induction t with
  | identity => exact .inl ⟨rfl, identity, rfl⟩
  | part a => exact .inr ⟨by simp, by rw [mapM, throw_bind]⟩
  | join l r hl hr =>
    rcases hl with ⟨hl, l', hl'⟩ | ⟨hl, hl'⟩
    · rcases hr with ⟨hr, r', hr'⟩ | ⟨hr, hr'⟩
      · exact .inl ⟨by simp [hl, hr], join l' r', by rw [mapM, hl', hr', pure_bind, pure_bind]⟩
      · exact .inr ⟨by simp [hr], by rw [mapM, hl', hr', pure_bind, throw_bind]⟩
    · exact .inr ⟨by simp [hl], by rw [mapM, hl', throw_bind]⟩

/-- If every part breaks off, the reduction breaks off at its first part. -/
lemma mapM_throw {e : Abort} {t : Reduction α} (h : t.leaves ≠ []) :
    t.mapM (fun _ => (throw e : ExceptT Abort n β)) = throw e :=
  ((mapM_throw_cases e t).resolve_left fun hnil => h hnil.1).2

end Reduction

end

lemma calm_aggregateBy {n : Type → Type} [Monad n] [LawfulMonad n] {R K A : Type} [BEq K]
    {key : R → ExceptT Abort n K} {zero : ExceptT Abort n A} (hkey : ∀ r, Calm (key r))
    (hzero : Calm zero) (add : A → R → A) (records : List R) :
    Calm (aggregateBy key zero add records) := by
  refine .foldlM (fun g r => (hkey r).bind fun k => Calm.bind ?_ fun _ => .pure _) records ∅
  rw [GroupMap.ensure]
  split_ifs
  · exact .pure _
  · exact hzero.bind fun _ => .pure _

/-! ### Breaking off on a shared map -/

namespace SharedTask

variable {n : Type → Type} [Monad n] [LawfulMonad n] {R K A : Type} [BEq K]
  {task : SharedTask (ExceptT Abort n) R K A}

/-- Without batches nobody ever has a turn. -/
lemma run_nil (task : SharedTask (ExceptT Abort n) R K A) (s : SharedMap K A) (turns : List Nat) :
    task.run s turns [] = pure s := by
  have hturns : turns.foldlM task.turn (s, []) = pure (s, []) := by
    induction turns with
    | nil => rfl
    | cons i turns ih =>
      rw [List.foldlM_cons]
      simpa [turn] using ih
  rw [run, List.map_nil, hturns, pure_bind]
  rfl

/-- If no batch can begin, the first turn of anybody breaks off. -/
lemma turns_throw {e : Abort} (hbegin : task.begin = throw e) (s : SharedMap K A) (turns : List Nat)
    {ws : List (SharedWorker R K)} (hws : ∀ w ∈ ws, w.phase = .waiting) :
    turns.foldlM task.turn (s, ws) = pure (s, ws) ∨ turns.foldlM task.turn (s, ws) = throw e := by
  induction turns with
  | nil => exact .inl rfl
  | cons i turns ih =>
    rw [List.foldlM_cons]
    cases hi : ws[i]? with
    | none =>
      have hturn : task.turn (s, ws) i = pure (s, ws) := by simp only [turn, hi]
      rw [hturn, pure_bind]
      exact ih
    | some w =>
      obtain ⟨phase, rest⟩ := w
      obtain rfl : phase = .waiting := hws _ (List.mem_of_getElem? hi)
      have hturn : task.turn (s, ws) i = throw e := by
        simp only [turn, hi, step, hbegin, throw_bind]
      exact .inr (by rw [hturn, throw_bind])

lemma run_throw {e : Abort} (hbegin : task.begin = throw e) (s : SharedMap K A) (turns : List Nat)
    {batches : List (List R)} (hne : batches ≠ []) : task.run s turns batches = throw e := by
  obtain ⟨batch, batches, rfl⟩ := List.exists_cons_of_ne_nil hne
  have hwaiting : ∀ w ∈ (batch :: batches).map fun rest => (⟨.waiting, rest⟩ : SharedWorker R K),
      w.phase = .waiting := by
    intro w hw
    obtain ⟨rest, -, rfl⟩ := List.mem_map.1 hw
    rfl
  rcases turns_throw hbegin s turns hwaiting with h | h
  · -- nobody had a turn, so the first worker is the first to begin
    rw [run, h, pure_bind]
    simp only [List.map_cons, List.foldlM_cons, finish, step, hbegin, throw_bind]
  · rw [run, h, throw_bind]

/-- Nothing that the workers do breaks off. -/
structure Unbroken (task : SharedTask (ExceptT Abort n) R K A) : Prop where
  begin : Calm task.begin
  key : ∀ r, Calm (task.key r)
  factory : Calm task.factory

namespace Unbroken

variable (h : task.Unbroken) (s : SharedMap K A)

include h

lemma updateOrInsert (k : K) (f : A → A) : Calm (s.updateOrInsert k task.factory f) := by
  rw [SharedMap.updateOrInsert, GroupMap.ensure]
  split_ifs
  · exact (Calm.pure _).bind fun _ => .pure _
  · exact (h.factory.bind fun _ => .pure _).bind fun _ => .pure _

lemma accept (r : R) :
    Calm (task.key r >>= fun k => s.accept k task.factory (task.update r)) := by
  refine (h.key r).bind fun k => ?_
  rw [SharedMap.accept]
  split
  · exact .pure _
  · exact h.updateOrInsert s k _

lemma step (w : SharedWorker R K) : Calm (task.step s w) := by
  obtain ⟨phase, rest⟩ := w
  cases phase with
  | waiting => exact h.begin.bind fun _ => .pure _
  | reading =>
    cases rest with
    | nil => exact .pure _
    | cons r rest =>
      refine (h.key r).bind fun k => ?_
      split <;> exact .pure _
  | missed k =>
    cases rest with
    | nil => exact .pure _
    | cons r rest => exact (h.updateOrInsert s k _).bind fun _ => .pure _

lemma finish (w : SharedWorker R K) : Calm (task.finish s w) := by
  obtain ⟨phase, rest⟩ := w
  have hrest : ∀ p : SharedMap K A × SharedWorker R K, Calm (p.2.rest.foldlM
      (fun s r => do s.accept (← task.key r) task.factory (task.update r)) p.1) := fun p =>
    .foldlM (fun s r => h.accept s r) p.2.rest p.1
  cases phase with
  | reading => exact (Calm.pure _).bind hrest
  | waiting | missed k => exact (h.step s _).bind hrest

lemma run (turns : List Nat) (batches : List (List R)) : Calm (task.run s turns batches) := by
  have hturn : ∀ state i, Calm (task.turn state i) := by
    intro state i
    rw [turn]
    split
    · exact .pure _
    · exact (h.step _ _).bind fun _ => .pure _
  exact (Calm.foldlM hturn turns _).bind fun state =>
    .foldlM (fun s w => h.finish s w) state.2 state.1

end Unbroken

end SharedTask

/-! ### Parallel runs -/

/-- The point that the batches of a style pass. -/
def Style.failpoint : Style → Failpoint
  | .immutable => .batchFold
  | .inPlace => .batchAccept
  | .inPlaceReduce => .batchReduce

namespace ParallelAggregator

variable {n : Type → Type} [Monad n] [LawfulMonad n] {R K A : Type} [BEq K]

/-- The same runs without failpoints. -/
def disarmed (p : ParallelAggregator K) : ParallelAggregator K := { p with failpoints := .none }

/-- A run breaks off if there is a batch, and the point of the style is listed. -/
def BreaksOff (p : ParallelAggregator K) (style : Style) (records : List R) : Prop :=
  records ≠ [] ∧ p.failpoints.Lists style.failpoint

instance (p : ParallelAggregator K) (style : Style) (records : List R) :
    Decidable (p.BreaksOff style records) :=
  inferInstanceAs (Decidable (records ≠ [] ∧ _))

lemma evenBatches_eq_nil_iff {records : List R} {size : BatchSize} :
    evenBatches records.length size = [] ↔ records = [] := by
  rw [evenBatches, List.map_eq_nil_iff, List.range_eq_nil, ← Nat.le_zero, ceilDiv_le_iff size.pos,
    Nat.zero_mul, Nat.le_zero, List.length_eq_zero_iff]

variable (p : ParallelAggregator K) {point : Failpoint} {records : List R}
  (hplannable : Plannable records.length p.batchSize)

include hplannable

section

variable [Merge A]

lemma reduceBatches_throw (hne : records ≠ []) (hlists : p.failpoints.Lists point)
    (fold : List R → ExceptT Abort n (GroupMap K A)) :
    p.reduceBatches point fold records = throw (.failpoint point) := by
  have hbatches :
      (p.schedule.reduction (evenBatches records.length p.batchSize)).leaves ≠ [] := by
    rwa [p.schedule.leaves_reduction, Ne, evenBatches_eq_nil_iff]
  have hparts : ∀ b : Batch, (do p.failpoints.pass point; fold (b.slice records)) =
      (throw (.failpoint point) : ExceptT Abort n (GroupMap K A)) := fun b => by
    rw [Failpoints.pass_of_lists hlists, throw_bind]
  rw [reduceBatches, p.plan_of_plannable hplannable, trapped_ok, pure_bind]
  simp only [hparts]
  rw [Reduction.mapM_throw hbatches, throw_bind]

lemma reduceBatches_disarmed (h : ¬ (records ≠ [] ∧ p.failpoints.Lists point))
    (fold : List R → ExceptT Abort n (GroupMap K A)) :
    p.reduceBatches point fold records = p.disarmed.reduceBatches point fold records := by
  have hdisarmed : p.disarmed.plan records.length = p.plan records.length := rfl
  rw [reduceBatches, reduceBatches, hdisarmed, p.plan_of_plannable hplannable, trapped_ok,
    pure_bind, pure_bind]
  refine congrArg (· >>= _) (Reduction.mapM_congr fun b hb => ?_)
  -- where there is a batch there are records, so it is the list of points that is to blame
  have hne : records ≠ [] := by
    rintro rfl
    rw [p.schedule.leaves_reduction, evenBatches_eq_nil_iff.2 rfl] at hb
    cases hb
  rw [Failpoints.pass_of_not_lists fun hlists => h ⟨hne, hlists⟩]
  rfl

lemma calm_reduceBatches_disarmed {fold : List R → ExceptT Abort n (GroupMap K A)}
    (hfold : ∀ rs, Calm (fold rs)) : Calm (p.disarmed.reduceBatches point fold records) := by
  have hparts : ∀ b : Batch, Calm (do p.disarmed.failpoints.pass point; fold (b.slice records)) :=
    fun b => (Calm.pure ()).bind fun _ => hfold _
  rw [reduceBatches, p.disarmed.plan_of_plannable hplannable, trapped_ok, pure_bind]
  exact (Reduction.calm_mapM hparts _).bind fun _ => .pure _

end

variable (hshards : p.lockShards ≤ shardCapacity) (key : R → ExceptT Abort n K)
  (factory : ExceptT Abort n A) (accept : R → StateM A Unit)

include hshards

/-- With room for its batches and shards, a run is what its workers do to a new map. -/
lemma exists_aggregateInPlaceBy_eq :
    ∃ s : SharedMap K A, SharedMap.new p.schedule.spread p.lockShards = .ok s ∧
      p.aggregateInPlaceBy key factory accept records = do
        let shared ← (⟨p.failpoints.pass .batchAccept, key, factory, accept⟩ :
          SharedTask (ExceptT Abort n) R K A).run s p.schedule.turns
            ((evenBatches records.length p.batchSize).map (·.slice records))
        return shared.toMap := by
  obtain ⟨s, hs, -⟩ := SharedMap.exists_new (A := A) hshards p.schedule.spread
  refine ⟨s, hs, ?_⟩
  rw [aggregateInPlaceBy, p.plan_of_plannable hplannable, hs, trapped_ok, trapped_ok, pure_bind,
    pure_bind]

lemma aggregateInPlaceBy_throw (hne : records ≠ []) (hlists : p.failpoints.Lists .batchAccept) :
    p.aggregateInPlaceBy key factory accept records = throw (.failpoint .batchAccept) := by
  have hbatches : (evenBatches records.length p.batchSize).map (·.slice records) ≠ [] := by
    rwa [Ne, List.map_eq_nil_iff, evenBatches_eq_nil_iff]
  obtain ⟨s, -, hrun⟩ :=
    p.exists_aggregateInPlaceBy_eq hplannable hshards key factory accept
  rw [hrun, SharedTask.run_throw (Failpoints.pass_of_lists hlists) _ _ hbatches, throw_bind]

lemma aggregateInPlaceBy_disarmed (h : ¬ (records ≠ [] ∧ p.failpoints.Lists .batchAccept)) :
    p.aggregateInPlaceBy key factory accept records =
      p.disarmed.aggregateInPlaceBy key factory accept records := by
  obtain ⟨s, hs, hrun⟩ :=
    p.exists_aggregateInPlaceBy_eq hplannable hshards key factory accept
  obtain ⟨s', hs', hrun'⟩ :=
    p.disarmed.exists_aggregateInPlaceBy_eq hplannable hshards key factory accept
  obtain rfl : s = s' := Except.ok.inj (hs.symm.trans hs')
  rw [hrun, hrun']
  by_cases hne : records = []
  · -- without batches, no point is passed
    subst hne
    have hnil : evenBatches ([] : List R).length p.batchSize = [] := evenBatches_eq_nil_iff.2 rfl
    have hnil' : evenBatches ([] : List R).length p.disarmed.batchSize = [] := hnil
    rw [hnil, hnil', List.map_nil, SharedTask.run_nil, SharedTask.run_nil]
  · rw [Failpoints.pass_of_not_lists fun hlists => h ⟨hne, hlists⟩]
    rfl

lemma calm_aggregateInPlaceBy_disarmed (hkey : ∀ r, Calm (key r)) (hfactory : Calm factory) :
    Calm (p.disarmed.aggregateInPlaceBy key factory accept records) := by
  have h : (⟨p.disarmed.failpoints.pass .batchAccept, key, factory, accept⟩ :
      SharedTask (ExceptT Abort n) R K A).Unbroken := ⟨.pure (), hkey, hfactory⟩
  obtain ⟨s, -, hrun⟩ :=
    p.disarmed.exists_aggregateInPlaceBy_eq hplannable hshards key factory accept
  rw [hrun]
  exact (h.run s _ _).bind fun _ => .pure _

end ParallelAggregator

/-! ### Aggregations -/

namespace Aggregation

variable {n : Type → Type} [Monad n] [LawfulMonad n] {R K A : Type} [BEq K]

/-- The same aggregation in runs that may be broken off. -/
def lifted (a : Aggregation n R K A) : Aggregation (ExceptT Abort n) R K A :=
  ⟨fun r => ExceptT.lift (a.key r), ExceptT.lift a.zero, a.add⟩

variable [Merge A] (a : Aggregation n R K A) {p : ParallelAggregator K} {style : Style}
  {records : List R}

lemma calm_parallel_disarmed (h : p.HasRoom style records.length) :
    Calm (a.lifted.parallel p.disarmed style records) := by
  have hkey : ∀ r, Calm (a.lifted.key r) := fun r => .lift (a.key r)
  have hzero : Calm a.lifted.zero := .lift a.zero
  cases style with
  | immutable =>
    exact p.calm_reduceBatches_disarmed h.plannable (calm_aggregateBy hkey hzero a.add)
  | inPlace =>
    exact p.calm_aggregateInPlaceBy_disarmed h.plannable (h.shards_le rfl) _ _ a.lifted.accept hkey
      hzero
  | inPlaceReduce =>
    exact p.calm_reduceBatches_disarmed h.plannable
      (calm_aggregateBy hkey hzero (changeBy a.lifted.accept))

lemma parallel_eq_throw (h : p.HasRoom style records.length) (hbreaks : p.BreaksOff style records) :
    a.lifted.parallel p style records = throw (.failpoint style.failpoint) := by
  obtain ⟨hne, hlists⟩ := hbreaks
  cases style with
  | immutable | inPlaceReduce => exact p.reduceBatches_throw h.plannable hne hlists _
  | inPlace => exact p.aggregateInPlaceBy_throw h.plannable (h.shards_le rfl) _ _ _ hne hlists

lemma parallel_eq_disarmed (h : p.HasRoom style records.length)
    (hbreaks : ¬ p.BreaksOff style records) :
    a.lifted.parallel p style records = a.lifted.parallel p.disarmed style records := by
  cases style with
  | immutable | inPlaceReduce => exact p.reduceBatches_disarmed h.plannable hbreaks _
  | inPlace => exact p.aggregateInPlaceBy_disarmed h.plannable (h.shards_le rfl) _ _ _ hbreaks

/-- If there is room for its batches and shards, a parallel run breaks off, without a map and
without having asked the caller anything, exactly if there are records and the text lists the point
of its style. Otherwise it has the result and the effects of the run without failpoints, which never
breaks off. A view of the run is made without running anything; reading it and taking its value
break off under the same condition. -/
theorem parallel_breaksOff (a : Aggregation n R K A) (p : ParallelAggregator K) (style : Style)
    (records : List R) (h : p.HasRoom style records.length) :
    ∃ result : n (GroupMap K A),
      (a.lifted.parallel p.disarmed style records).run = Except.ok <$> result ∧
      (a.lifted.parallel p style records).run =
        (if p.BreaksOff style records then pure (.error (.failpoint style.failpoint))
          else Except.ok <$> result) ∧
      (a.lifted.parallelLazy p style records).isEvaluated = false ∧
      (a.lifted.parallelLazy p style records).force.run =
        (if p.BreaksOff style records then pure (.error (.failpoint style.failpoint))
          else (fun g => .ok (g, .evaluated g)) <$> result) ∧
      (a.lifted.parallelLazy p style records).intoValue.run =
        (if p.BreaksOff style records then pure (.error (.failpoint style.failpoint))
          else Except.ok <$> result) := by
  obtain ⟨result, hresult⟩ := a.calm_parallel_disarmed h
  have hrun : (a.lifted.parallel p style records).run =
      if p.BreaksOff style records then pure (.error (.failpoint style.failpoint))
        else Except.ok <$> result := by
    split_ifs with hbreaks
    · rw [a.parallel_eq_throw h hbreaks, ExceptT.run_throw]
    · rw [a.parallel_eq_disarmed h hbreaks, hresult, ExceptT.run_lift]
  refine ⟨result, by rw [hresult, ExceptT.run_lift], hrun, rfl, ?_, hrun⟩
  rw [parallelLazy, LazyView.force, ExceptT.run_bind, hrun]
  split_ifs
  · rw [pure_bind]
  · simp

/-- Sums of numbers by name, with a count of the names that were asked for. -/
def countedSums : Aggregation (StateM Nat) (String × Int) String Int where
  key r := do
    modify (· + 1)
    return r.1
  zero := pure 0
  add a r := a + r.2

/-- With the point of batches in place armed, a run in place asks for no name. A run of plain
values, whose own point is only part of a word of the list, asks for all three and has their
sums. -/
theorem parallel_breaksOff_inPairs :
    let p : ParallelAggregator String :=
      { ParallelAggregator.inPairs with
        failpoints := ⟨some "panic_batch_folds, panic_batch_accept "⟩ }
    let records : List (String × Int) := [("a", 1), ("b", 10), ("a", 2)]
    p.HasRoom .inPlace records.length ∧ p.HasRoom .immutable records.length ∧
      (countedSums.lifted.parallel p .inPlace records).run.run 0 =
        (.error (.failpoint .batchAccept), 0) ∧
      (countedSums.lifted.parallel p .immutable records).run =
        (countedSums.lifted.parallel p.disarmed .immutable records).run ∧
      ((countedSums.lifted.parallel p.disarmed .immutable records).run.run 0).2 = 3 ∧
      (((countedSums.lifted.parallel p.disarmed .immutable records).run.run 0).1.toOption.map
        GroupMap.entries) = some [("b", 10), ("a", 3)] := by
  intro p records
  have hroom : ∀ style, p.HasRoom style records.length := fun style =>
    ⟨by decide, fun _ => by decide⟩
  have hinPlace : p.BreaksOff .inPlace records := by decide
  have himmutable : ¬ p.BreaksOff .immutable records := by decide
  obtain ⟨_, -, hbreaks, -⟩ :=
    countedSums.parallel_breaksOff p .inPlace records (hroom .inPlace)
  obtain ⟨result, hcalm, hruns, -⟩ :=
    countedSums.parallel_breaksOff p .immutable records (hroom .immutable)
  rw [if_pos hinPlace] at hbreaks
  rw [if_neg himmutable] at hruns
  refine ⟨hroom _, hroom _, ?_, hruns.trans hcalm.symm, by decide, by decide⟩
  rw [hbreaks]
  rfl

/-- A map with more shards than fit in any memory cannot be made: without any failpoint, a run that
shares it breaks off before it asks for a name. -/
theorem parallel_lacks_room :
    let p : ParallelAggregator String :=
      { ParallelAggregator.inPairs with lockShards := 0xffffffffffffffff }
    p.failpoints = .none ∧ Plannable 1 p.batchSize ∧ ¬ p.BreaksOff .inPlace [("a", (1 : Int))] ∧
      (countedSums.lifted.parallel p .inPlace [("a", 1)]).run.run 0 =
        (.error (.trap .capacity), 0) := by
  intro p
  have hplannable : Plannable [("a", (1 : Int))].length p.batchSize := by decide
  have hparts := p.parts_of_lt_lockShards hplannable (by decide)
  refine ⟨rfl, hplannable, by decide, ?_⟩
  rw [countedSums.lifted.parallel_stopped throw_bind hparts]
  rfl

end Aggregation

end Groupwise
