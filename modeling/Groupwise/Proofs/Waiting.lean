import Groupwise.WorkerPool
import Mathlib

/-!
# A shutdown tells the truth

An event of a life does one of three things, if anything: a worker leaves, the waiter looks, or the
time for waiting runs out (`Life.step_cases`). None of them brings a worker back, and the count is
changed only by a worker that leaves, so by induction over the events the count is at every time
the number of workers that have not left (`Life.live_run`).

The waiter speaks only after a look. What it says is true at that moment (`shutdown_truthful`),
whatever came before: workers that left early or at the last moment, and looks without a reason.
-/

namespace Groupwise.WorkerPool

namespace Life

variable {s : Life} {e : Event} {o : Outcome}

/-! ### What an event does -/

/-- The waiter has not said yet what became of the shutdown. -/
def Open (s : Life) : Prop := ∀ o, s.waiter ≠ .done o

/-- The life after the worker `i` has left. -/
def without (s : Life) (i : Nat) : Life :=
  { s with alive := s.alive.set i false, live := s.live - 1 }

lemma step_cases (s : Life) (e : Event) :
    s.step e = s ∨
    (∃ i, e = .leave i ∧ s.alive[i]? = some true ∧ s.step e = s.without i) ∨
    (s.Open ∧ s.step e = s.look) ∨
    (e = .expire ∧ s.waiter = .waiting ∧ s.step e = { s with expired := true }) := by
  cases e with
  | leave i =>
    by_cases h : s.alive[i]? = some true
    · exact .inr (.inl ⟨i, rfl, h, if_pos h⟩)
    · exact .inl (if_neg h)
  | beginWait =>
    by_cases h : s.waiter = .absent
    · exact .inr (.inr (.inl ⟨by simp [Open, h], if_pos h⟩))
    · exact .inl (if_neg h)
  | wake =>
    by_cases h : s.waiter = .waiting
    · exact .inr (.inr (.inl ⟨by simp [Open, h], if_pos h⟩))
    · exact .inl (if_neg h)
  | expire =>
    by_cases h : s.waiter = .waiting
    · exact .inr (.inr (.inr ⟨rfl, h, if_pos h⟩))
    · exact .inl (if_neg h)

/-- A look changes nothing but what the waiter does. -/
lemma look_eq (s : Life) : ∃ w, s.look = { s with waiter := w } := by
  rw [look]
  cases s.waited? <;> exact ⟨_, rfl⟩

lemma run_snoc (s : Life) (events : List Event) (e : Event) :
    s.run (events ++ [e]) = (s.run events).step e := by
  simp [run]

lemma run_append (s : Life) (events more : List Event) :
    s.run (events ++ more) = (s.run events).run more := by
  simp [run]

/-! ### The count -/

lemma remaining_pos {i : Nat} (h : s.alive[i]? = some true) : 0 < s.remaining :=
  List.count_pos_iff.2 (List.mem_of_getElem? h)

lemma remaining_without {i : Nat} (h : s.alive[i]? = some true) :
    (s.without i).remaining = s.remaining - 1 := by
  obtain ⟨hi, htrue⟩ := List.getElem?_eq_some_iff.1 h
  simp [remaining, without, List.count_set hi, htrue]

lemma remaining_look (s : Life) : s.look.remaining = s.remaining := by
  obtain ⟨w, h⟩ := s.look_eq
  rw [h]
  rfl

/-- No worker comes back. -/
lemma remaining_step_le (s : Life) (e : Event) : (s.step e).remaining ≤ s.remaining := by
  rcases s.step_cases e with h | ⟨i, -, hi, h⟩ | ⟨-, h⟩ | ⟨-, -, h⟩ <;> rw [h]
  · rw [remaining_without hi]
    exact Nat.sub_le _ _
  · exact s.remaining_look.le
  · rfl

lemma live_step (h : s.live = s.remaining) (e : Event) :
    (s.step e).live = (s.step e).remaining := by
  rcases s.step_cases e with hs | ⟨i, -, hi, hs⟩ | ⟨-, hs⟩ | ⟨-, -, hs⟩ <;> rw [hs]
  · exact h
  · rw [remaining_without hi, ← h]
    rfl
  · obtain ⟨w, hw⟩ := s.look_eq
    rw [hw]
    exact h
  · exact h

/-- At every time the count is the number of workers that have not left. -/
theorem live_run (pool : WorkerPool) (events : List Event) :
    ((start pool).run events).live = ((start pool).run events).remaining := by
  induction events using List.reverseRecOn with
  | nil => simp [run, start, remaining]
  | append_singleton events e ih =>
    rw [run_snoc]
    exact live_step ih e

/-! ### The waiter -/

/-- A waiter that looks says that all workers have left, or that its time has run out. -/
lemma waiter_look (h : s.look.waiter = .done o) :
    (o = .stopped ∧ s.live = 0) ∨ (o = .timedOut s.live ∧ s.expired = true ∧ 0 < s.live) := by
  rw [look, waited?] at h
  by_cases hlive : s.live = 0
  · rw [if_pos hlive] at h
    exact .inl ⟨by simpa [verdict] using h.symm, hlive⟩
  · rw [if_neg hlive] at h
    have hpos := Nat.pos_of_ne_zero hlive
    by_cases hexpired : s.expired = true
    · rw [if_pos hexpired] at h
      exact .inr ⟨by simpa [verdict, hpos] using h.symm, hexpired, hpos⟩
    · rw [if_neg hexpired] at h
      cases h

/-- What was said stays said. -/
lemma waiter_step_of_done (h : s.waiter = .done o) (e : Event) : (s.step e).waiter = .done o := by
  rcases s.step_cases e with hs | ⟨i, -, -, hs⟩ | ⟨hopen, -⟩ | ⟨-, -, hs⟩
  · rw [hs, h]
  · rw [hs]
    exact h
  · exact absurd h (hopen o)
  · rw [hs]
    exact h

lemma waiter_run_of_done (h : s.waiter = .done o) (events : List Event) :
    (s.run events).waiter = .done o := by
  induction events using List.reverseRecOn with
  | nil => exact h
  | append_singleton events e ih =>
    rw [run_snoc]
    exact waiter_step_of_done ih e

/-- Only a look makes the waiter speak. -/
lemma step_eq_look (hopen : s.Open) (h : (s.step e).waiter = .done o) : s.step e = s.look := by
  rcases s.step_cases e with hs | ⟨i, -, -, hs⟩ | ⟨-, hs⟩ | ⟨-, -, hs⟩
  · rw [hs] at h
    exact absurd h (hopen o)
  · rw [hs] at h
    exact absurd h (hopen o)
  · exact hs
  · rw [hs] at h
    exact absurd h (hopen o)

/-- The time has run out only if it did so during the wait. -/
lemma exists_expire (pool : WorkerPool) {events : List Event}
    (h : ((start pool).run events).expired = true) :
    ∃ before after, events = before ++ .expire :: after ∧
      ((start pool).run before).waiter = .waiting := by
  induction events using List.reverseRecOn with
  | nil => cases h
  | append_singleton events e ih =>
    have hlater (hbefore : ((start pool).run events).expired = true) :
        ∃ before after, events ++ [e] = before ++ .expire :: after ∧
          ((start pool).run before).waiter = .waiting := by
      obtain ⟨before, after, rfl, hwaiting⟩ := ih hbefore
      exact ⟨before, after ++ [e], by simp, hwaiting⟩
    rw [run_snoc] at h
    rcases ((start pool).run events).step_cases e with hs | ⟨i, -, -, hs⟩ | ⟨-, hs⟩ |
      ⟨rfl, hwaiting, -⟩
    · exact hlater (hs ▸ h)
    · rw [hs] at h
      exact hlater h
    · obtain ⟨w, hw⟩ := ((start pool).run events).look_eq
      rw [hs, hw] at h
      exact hlater h
    · exact ⟨events, [], rfl, hwaiting⟩

/-- There is a moment at which the waiter began to speak. -/
lemma exists_look (pool : WorkerPool) {events : List Event}
    (h : ((start pool).run events).waiter = .done o) :
    ∃ before e after, events = before ++ e :: after ∧ ((start pool).run before).Open ∧
      ((start pool).run (before ++ [e])).waiter = .done o := by
  induction events using List.reverseRecOn with
  | nil => cases h
  | append_singleton events e ih =>
    by_cases hopen : ((start pool).run events).Open
    · exact ⟨events, e, [], rfl, hopen, h⟩
    · obtain ⟨o', ho'⟩ : ∃ o', ((start pool).run events).waiter = .done o' := by
        simpa [Open] using hopen
      have hsame := waiter_step_of_done ho' e
      rw [run_snoc, hsame] at h
      obtain rfl : o' = o := by simpa using h
      obtain ⟨before, e', after, rfl, hbefore, hdone⟩ := ih ho'
      exact ⟨before, e', after ++ [e], by simp, hbefore, hdone⟩

lemma remaining_run_le (s : Life) (events : List Event) :
    (s.run events).remaining ≤ s.remaining := by
  induction events using List.reverseRecOn with
  | nil => rfl
  | append_singleton events e ih =>
    rw [run_snoc]
    exact (remaining_step_le _ e).trans ih

end Life

open Life

/-! ### Shutdowns -/

/-- What an outcome says about a life at the moment at which it is announced. -/
def Outcome.TrueOf (s : Life) : Outcome → Prop
  | stopped => s.remaining = 0
  | timedOut live => s.expired = true ∧ 0 < live ∧ s.remaining = live

lemma Outcome.trueOf_look {s : Life} {o : Outcome} (hcount : s.live = s.remaining)
    (h : s.look.waiter = .done o) : o.TrueOf s.look := by
  rcases waiter_look h with ⟨rfl, hzero⟩ | ⟨rfl, hexpired, hpos⟩
  · show s.look.remaining = 0
    rw [remaining_look, ← hcount, hzero]
  · refine ⟨?_, hpos, by rw [remaining_look, hcount]⟩
    obtain ⟨w, hw⟩ := s.look_eq
    rw [hw]
    exact hexpired

/-- Whatever happens in whatever order, the count is the number of workers that have not left, and a
worker that leaves always finds itself counted. A shutdown says what is true when it says so: that
all workers have left, and then none is alive ever after; or how many have not, at least one, and
then the time ran out while it was waiting. -/
theorem shutdown_truthful (pool : WorkerPool) (events : List Event) :
    let life (es : List Event) := (start pool).run es
    (life events).live = (life events).remaining ∧
    (∀ i : Nat, (life events).alive[i]? = some true → 0 < (life events).live) ∧
    ∀ o, (life events).waiter = .done o →
      (o = .stopped → (life events).remaining = 0) ∧
      ∃ before e after, events = before ++ e :: after ∧ (life before).Open ∧
        (life (before ++ [e])).waiter = .done o ∧ o.TrueOf (life (before ++ [e])) ∧
        (o ≠ .stopped → ∃ earlier later, before = earlier ++ .expire :: later ∧
          (life earlier).waiter = .waiting) := by
  intro life
  refine ⟨live_run pool events, fun i hi => ?_, fun o ho => ?_⟩
  · rw [live_run]
    exact remaining_pos hi
  · obtain ⟨before, e, after, rfl, hopen, hdone⟩ := exists_look pool ho
    have hlook : life (before ++ [e]) = (life before).look := by
      have hstep := hdone
      rw [run_snoc] at hstep
      exact (run_snoc _ before e).trans (step_eq_look hopen hstep)
    have hspoken : (life before).look.waiter = .done o := by
      rw [← hlook]
      exact hdone
    have htrue : o.TrueOf (life (before ++ [e])) := by
      rw [hlook]
      exact Outcome.trueOf_look (live_run pool before) hspoken
    refine ⟨?_, before, e, after, rfl, hopen, hdone, htrue, fun hrest => ?_⟩
    · rintro rfl
      have hle := remaining_run_le (life (before ++ [e])) after
      rw [← run_append, List.append_assoc, List.singleton_append] at hle
      exact Nat.le_zero.1 (hle.trans_eq htrue)
    · rcases waiter_look hspoken with ⟨rfl, -⟩ | ⟨-, hexpired, -⟩
      · exact absurd rfl hrest
      · exact exists_expire pool hexpired

/-- Of two workers one leaves before the wait begins. The waiter is woken up for no reason, and the
time runs out before the other one leaves, which is too late. -/
theorem shutdown_truthful_late :
    let pool : WorkerPool := ⟨2, by decide⟩
    let events : List Event := [.leave 1, .beginWait, .wake, .expire, .wake, .leave 0]
    let life (es : List Event) := (start pool).run es
    (life events).waiter = .done (.timedOut 1) ∧ (life events).live = 0 ∧
      (life [.leave 1, .beginWait]).alive[0]? = some true ∧ 0 < (life [.leave 1, .beginWait]).live ∧
      ∃ before e after, events = before ++ e :: after ∧ (life before).Open ∧
        (life (before ++ [e])).remaining = 1 ∧
        ∃ earlier later, before = earlier ++ .expire :: later ∧
          (life earlier).waiter = .waiting := by
  intro pool events life
  obtain ⟨-, hcounted, -⟩ := shutdown_truthful pool [.leave 1, .beginWait]
  obtain ⟨hlive, -, hspoken⟩ := shutdown_truthful pool events
  obtain ⟨-, before, e, after, hsplit, hopen, -, ⟨-, -, hremaining⟩, hexpire⟩ :=
    hspoken (.timedOut 1) rfl
  exact ⟨rfl, hlive, rfl, hcounted 0 rfl, before, e, after, hsplit, hopen, hremaining,
    hexpire (by decide)⟩

/-! ### Workers that leave at given times -/

section

variable {s : Life}

lemma waiter_run_leaves (s : Life) (ids : List Nat) :
    (s.run (ids.map .leave)).waiter = s.waiter ∧ (s.run (ids.map .leave)).expired = s.expired := by
  induction ids using List.reverseRecOn with
  | nil => exact ⟨rfl, rfl⟩
  | append_singleton ids i ih =>
    rw [List.map_append, List.map_singleton, run_snoc, step]
    split_ifs <;> exact ih

/-- Workers that are alive, leaving one after the other. -/
lemma remaining_run_leaves {ids : List Nat} (hids : ids.Nodup)
    (halive : ∀ i ∈ ids, s.alive[i]? = some true) :
    (s.run (ids.map .leave)).remaining = s.remaining - ids.length := by
  induction ids generalizing s with
  | nil => rfl
  | cons i ids ih =>
    obtain ⟨hi, hids⟩ := List.nodup_cons.1 hids
    have hfirst := halive i (by simp)
    have hstep : s.run ((i :: ids).map .leave) = (s.without i).run (ids.map .leave) := by
      rw [List.map_cons, run, List.foldl_cons, step, if_pos hfirst]
      rfl
    have hrest : ∀ j ∈ ids, (s.without i).alive[j]? = some true := by
      intro j hj
      have hne : i ≠ j := fun h => hi (h ▸ hj)
      rw [without, List.getElem?_set_ne hne]
      exact halive j (by simp [hj])
    rw [hstep, ih hids hrest, remaining_without hfirst, List.length_cons]
    omega

/-- A wait ends at the latest when its time runs out. -/
lemma waiter_run_expire (hwaiting : s.waiter = .waiting) (hexpired : s.expired = false) :
    (s.run [.wake, .expire, .wake]).waiter =
      .done (if s.live = 0 then .stopped else .timedOut s.live) := by
  by_cases hlive : s.live = 0
  · simp [run, step, look, waited?, verdict, hwaiting, hlive]
  · simp [run, step, look, waited?, verdict, hwaiting, hexpired, hlive, Nat.pos_of_ne_zero hlive]

end

/-- The workers that leave in time. -/
def punctual (leaving : List Nat) (timeout : Nat) : List Nat :=
  (leaving.zipIdx.filter (·.1 ≤ timeout)).map Prod.snd

lemma nodup_punctual (leaving : List Nat) (timeout : Nat) : (punctual leaving timeout).Nodup := by
  refine List.Nodup.sublist (List.filter_sublist.map Prod.snd) ?_
  rw [List.zipIdx_map_snd]
  exact List.nodup_range'

lemma lt_of_mem_punctual {leaving : List Nat} {timeout i : Nat}
    (h : i ∈ punctual leaving timeout) : i < leaving.length := by
  obtain ⟨⟨t, i⟩, he, rfl⟩ := List.mem_map.1 h
  exact List.snd_lt_of_mem_zipIdx (List.mem_filter.1 he).1

lemma length_punctual (leaving : List Nat) (timeout : Nat) :
    (punctual leaving timeout).length = leaving.countP (· ≤ timeout) := by
  rw [punctual, List.length_map, ← List.countP_eq_length_filter]
  conv_rhs => rw [← List.zipIdx_map_fst 0 leaving, List.countP_map]
  rfl

/-- A shutdown whose workers leave at given times ends well if none of them is late, and otherwise
says how many are. -/
theorem shutdown_eq (pool : WorkerPool) (leaving : List Nat) (timeout : Nat)
    (h : leaving.length = pool.threads) :
    pool.shutdown leaving timeout =
      if leaving.countP (timeout < ·) = 0 then .stopped
      else .timedOut (leaving.countP (timeout < ·)) := by
  -- the wait begins, and then those leave that are in time
  let begun : Life := { start pool with waiter := .waiting }
  have hbegun : (start pool).step .beginWait = begun := by
    simp [step, look, waited?, start, begun, pool.pos.ne']
  have hevents : (start pool).run (timeline leaving timeout) =
      ((begun.run ((punctual leaving timeout).map .leave)).run [.wake, .expire, .wake]).run
        ((leaving.zipIdx.filter (timeout < ·.1)).map fun e => .leave e.2) := by
    rw [← run_append, ← run_append, ← hbegun, punctual, List.map_map, ← List.append_assoc]
    rfl
  have halive : ∀ i ∈ punctual leaving timeout, begun.alive[i]? = some true := by
    intro i hi
    have hlt := lt_of_mem_punctual hi
    simp [begun, start, h ▸ hlt]
  have hremaining : (begun.run ((punctual leaving timeout).map .leave)).remaining =
      leaving.countP (timeout < ·) := by
    rw [remaining_run_leaves (nodup_punctual leaving timeout) halive, length_punctual]
    have hall := List.length_eq_countP_add_countP (· ≤ timeout) (l := leaving)
    have hstart : begun.remaining = leaving.length := by simp [begun, start, remaining, h]
    simp only [decide_eq_true_eq, not_le] at hall
    omega
  have hlive : (begun.run ((punctual leaving timeout).map .leave)).live =
      leaving.countP (timeout < ·) := by
    have hcount := live_run pool (.beginWait :: (punctual leaving timeout).map .leave)
    rw [run, List.foldl_cons, hbegun] at hcount
    exact hcount.trans hremaining
  obtain ⟨hwaiter, hexpired⟩ := waiter_run_leaves begun (punctual leaving timeout)
  have hspoken := waiter_run_expire hwaiter hexpired
  rw [hlive] at hspoken
  rw [shutdown, hevents, waiter_run_of_done hspoken]

/-- One worker of three is late. -/
example : (⟨3, by decide⟩ : WorkerPool).shutdown [10, 70, 50] 50 = .timedOut 1 := by decide

end Groupwise.WorkerPool
