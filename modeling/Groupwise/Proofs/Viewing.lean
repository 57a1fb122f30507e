import Groupwise.Aggregation
import Groupwise.Inspect
import Mathlib

/-!
# Views run once

A session asks a view a number of questions and then gives the view up. Until the value is asked
for, by a read or by taking it out of the view, nothing runs; then the aggregation runs once, and
all later answers come from its result (`Aggregation.session_runs_once`). A session is an equation
in the monad of the aggregation: it has the effects of one eager run, or none, so whatever a run
does, it is done once. How often an aggregation runs is counted besides (`LazyView.counted`).
-/

namespace Groupwise

/-! ### Sessions -/

/-- A question that does not need the value. -/
inductive Observation
  | isEvaluated
  | inspect

/-- What is asked of a view. All that can be learned from a read is in the value. -/
inductive ViewRequest
  | observe (o : Observation)
  | read

/-- How a view is given up. -/
inductive ViewEnd
  | intoValue
  | drop

/-- What a view answers. -/
inductive ViewAnswer (α : Type)
  | flag (b : Bool)
  | text (s : String)
  | value (a : α)

namespace LazyView

section

variable {m : Type → Type} [Monad m] {α : Type} [Inspect α]

/-- The answer to a request, and the view after it. -/
def answer (v : LazyView m α) : ViewRequest → m (ViewAnswer α × LazyView m α)
  | .observe .isEvaluated => return (.flag v.isEvaluated, v)
  | .observe .inspect => return (.text (inspect v), v)
  | .read => do
    let (a, v) ← v.force
    return (.value a, v)

/-- The answers to requests one after the other, and the view after them. -/
def answers (v : LazyView m α) : List ViewRequest → m (List (ViewAnswer α) × LazyView m α)
  | [] => return ([], v)
  | r :: rs => do
    let (x, v) ← v.answer r
    let (xs, v) ← v.answers rs
    return (x :: xs, v)

/-- What is left of a view that is given up. -/
def finish (v : LazyView m α) : ViewEnd → m (Option α)
  | .intoValue => some <$> v.intoValue
  | .drop => return none

/-- The answers to requests, and what is left at the end. -/
def session (v : LazyView m α) (rs : List ViewRequest) (ending : ViewEnd) :
    m (List (ViewAnswer α) × Option α) := do
  let (xs, v) ← v.answers rs
  return (xs, ← v.finish ending)

/-- The same view, with a count of how often its computation runs. -/
def counted : LazyView m α → LazyView (StateT Nat m) α
  | pending thunk => pending do
    modify (· + 1)
    thunk
  | evaluated a => evaluated a

end

end LazyView

/-! ### Answers -/

section

variable {α : Type} [Inspect α]

/-- What is observed of a view before its value is asked for. -/
def Observation.pendingAnswer : Observation → ViewAnswer α
  | isEvaluated => .flag false
  | inspect => .text "LazyAggregation(<pending>)"

/-- What a view answers that has the value `a`. -/
def ViewRequest.answerOf (a : α) : ViewRequest → ViewAnswer α
  | observe .isEvaluated => .flag true
  | observe .inspect => .text ("LazyAggregation(" ++ Groupwise.inspect a ++ ")")
  | read => .value a

/-- What a view with the value `a` leaves. -/
def ViewEnd.leaves (a : α) : ViewEnd → Option α
  | intoValue => some a
  | drop => none

end

/-- Either the value is never asked for, or there is a first time. -/
lemma ViewRequest.exists_split (rs : List ViewRequest) :
    (∃ before : List Observation, rs = before.map observe) ∨
      ∃ (before : List Observation) (after : List ViewRequest),
        rs = before.map observe ++ read :: after := by
  induction rs with
  | nil => exact .inl ⟨[], rfl⟩
  | cons r rs ih =>
    cases r with
    | read => exact .inr ⟨[], rs, rfl⟩
    | observe o =>
      rcases ih with ⟨before, rfl⟩ | ⟨before, after, rfl⟩
      · exact .inl ⟨o :: before, rfl⟩
      · exact .inr ⟨o :: before, after, rfl⟩

namespace LazyView

variable {m : Type → Type} [Monad m] [LawfulMonad m] {α : Type} [Inspect α]

/-! ### Steps -/

omit [LawfulMonad m] in
@[simp] lemma answer_observe_pending (thunk : m α) (o : Observation) :
    (pending thunk).answer (.observe o) = pure (o.pendingAnswer, pending thunk) := by
  cases o <;> rfl

@[simp] lemma answer_read_pending (thunk : m α) :
    (pending thunk).answer .read = (fun a => (.value a, evaluated a)) <$> thunk := by
  simp [answer, force]

@[simp] lemma answer_evaluated (a : α) (r : ViewRequest) :
    (evaluated a : LazyView m α).answer r = pure (r.answerOf a, evaluated a) := by
  rcases r with (_ | _) | _
  · rfl
  · rfl
  · simp [answer, force, ViewRequest.answerOf]

omit [Inspect α] in
@[simp] lemma finish_evaluated (a : α) (ending : ViewEnd) :
    (evaluated a : LazyView m α).finish ending = pure (ending.leaves a) := by
  cases ending <;> simp [finish, intoValue, ViewEnd.leaves]

/-! ### Runs of requests -/

lemma answers_append (v : LazyView m α) (rs rs' : List ViewRequest) :
    v.answers (rs ++ rs') = do
      let (xs, v) ← v.answers rs
      let (xs', v) ← v.answers rs'
      return (xs ++ xs', v) := by
  induction rs generalizing v with
  | nil => simp [answers]
  | cons r rs ih => simp [answers, ih]

/-- Observations change nothing and have no effects. -/
lemma answers_observe_pending (thunk : m α) (before : List Observation) :
    (pending thunk).answers (before.map .observe) =
      pure (before.map Observation.pendingAnswer, pending thunk) := by
  induction before with
  | nil => rfl
  | cons o before ih => simp [answers, ih]

/-- A view that has its value keeps it. -/
lemma answers_evaluated (a : α) (rs : List ViewRequest) :
    (evaluated a : LazyView m α).answers rs =
      pure (rs.map (ViewRequest.answerOf a), evaluated a) := by
  induction rs with
  | nil => rfl
  | cons r rs ih => simp [answers, ih]

/-- Without a read and without taking the value out, nothing runs. -/
lemma session_drop_pending (thunk : m α) (before : List Observation) :
    (pending thunk).session (before.map .observe) .drop =
      pure (before.map Observation.pendingAnswer, none) := by
  simp [session, answers_observe_pending, finish]

lemma session_intoValue_pending (thunk : m α) (before : List Observation) :
    (pending thunk).session (before.map .observe) .intoValue =
      (fun a => (before.map Observation.pendingAnswer, some a)) <$> thunk := by
  simp [session, answers_observe_pending, finish, intoValue]

lemma session_read_pending (thunk : m α) (before : List Observation) (after : List ViewRequest)
    (ending : ViewEnd) :
    (pending thunk).session (before.map .observe ++ .read :: after) ending =
      (fun a => (before.map Observation.pendingAnswer ++ .value a ::
        after.map (ViewRequest.answerOf a), ending.leaves a)) <$> thunk := by
  simp [session, answers_append, answers_observe_pending, answers, answers_evaluated]

/-! ### Counting runs -/

omit [Inspect α] in
/-- One run of a counted computation is one run. -/
lemma run_map_counting {β : Type} (thunk : m α) (f : α → β) (n : Nat) :
    (f <$> (do modify (· + 1); thunk : StateT Nat m α)).run n =
      (fun a => (f a, n + 1)) <$> thunk := by
  simp

end LazyView

/-- How a session goes whose view waits for `eager`: what comes out of it, and the number of runs
after it if there were `n` before. -/
inductive Course {m : Type → Type} [Monad m] {α : Type} [Inspect α] (eager : m α) (n : Nat) :
    List ViewRequest → ViewEnd → m ((List (ViewAnswer α) × Option α) × Nat) → Prop
  /-- The value is never asked for, and nothing runs. -/
  | untouched (before : List Observation) :
      Course eager n (before.map .observe) .drop
        (pure ((before.map Observation.pendingAnswer, none), n))
  /-- The value is taken out of a view that was not read. -/
  | taken (before : List Observation) :
      Course eager n (before.map .observe) .intoValue
        ((fun a => ((before.map Observation.pendingAnswer, some a), n + 1)) <$> eager)
  /-- The value is read, and everything that comes later is about the value that was read. -/
  | read (before : List Observation) (after : List ViewRequest) (ending : ViewEnd) :
      Course eager n (before.map .observe ++ .read :: after) ending
        ((fun a => ((before.map Observation.pendingAnswer ++ .value a ::
          after.map (ViewRequest.answerOf a), ending.leaves a), n + 1)) <$> eager)

namespace LazyView

variable {m : Type → Type} [Monad m] [LawfulMonad m] {α : Type} [Inspect α]

lemma course_counted (thunk : m α) (n : Nat) (rs : List ViewRequest) (ending : ViewEnd) :
    Course thunk n rs ending (((pending thunk).counted.session rs ending).run n) := by
  rcases ViewRequest.exists_split rs with ⟨before, rfl⟩ | ⟨before, after, rfl⟩
  · cases ending with
    | drop =>
      rw [counted, session_drop_pending]
      exact .untouched before
    | intoValue =>
      rw [counted, session_intoValue_pending, run_map_counting]
      exact .taken before
  · rw [counted, session_read_pending, run_map_counting]
    exact .read before after ending

/-- Counting does not change a session. -/
lemma fst_map_session_counted (thunk : m α) (n : Nat) (rs : List ViewRequest) (ending : ViewEnd) :
    Prod.fst <$> ((pending thunk).counted.session rs ending).run n =
      (pending thunk).session rs ending := by
  rcases ViewRequest.exists_split rs with ⟨before, rfl⟩ | ⟨before, after, rfl⟩
  · cases ending with
    | drop =>
      rw [counted, session_drop_pending, session_drop_pending]
      exact map_pure _ _
    | intoValue =>
      rw [counted, session_intoValue_pending, session_intoValue_pending, run_map_counting]
      simp
  · rw [counted, session_read_pending, session_read_pending, run_map_counting]
    simp

end LazyView

/-! ### Aggregations -/

/-- Where an aggregation runs. -/
inductive Place (K : Type) [BEq K]
  | serial
  | parallel (p : ParallelAggregator K)

namespace Aggregation

variable {m : Type → Type} [Monad m] [MonadExceptOf Abort m] {R K A : Type} [BEq K] [Merge A]

/-- The eager operation. -/
def eager (a : Aggregation m R K A) (style : Style) (records : List R) :
    Place K → m (GroupMap K A)
  | .serial => a.serial style records
  | .parallel p => a.parallel p style records

/-- The deferred operation. -/
def deferred (a : Aggregation m R K A) (style : Style) (records : List R) :
    Place K → LazyView m (GroupMap K A)
  | .serial => a.serialLazy style records
  | .parallel p => a.parallelLazy p style records

lemma deferred_eq (a : Aggregation m R K A) (style : Style) (records : List R) (place : Place K) :
    a.deferred style records place = .pending (a.eager style records place) := by
  cases place <;> rfl

/-- Whatever is asked of a view in whatever order, its aggregation runs when the value is asked for
the first time, and never again; before that the view only says that it is pending. All values
that are read or taken out are the one result of the eager operation, with the effects that it has.
-/
theorem session_runs_once [LawfulMonad m] [Inspect K] [Inspect A] (a : Aggregation m R K A)
    (style : Style) (records : List R) (place : Place K) (n : Nat) (rs : List ViewRequest)
    (ending : ViewEnd) :
    Course (a.eager style records place) n rs ending
        (((a.deferred style records place).counted.session rs ending).run n) ∧
      Prod.fst <$> ((a.deferred style records place).counted.session rs ending).run n =
        (a.deferred style records place).session rs ending := by
  rw [deferred_eq]
  exact ⟨LazyView.course_counted _ n rs ending, LazyView.fst_map_session_counted _ n rs ending⟩

/-- Sums of numbers by name; the state counts how often a name is asked for. -/
def sumsByName : Aggregation (StateT Nat (Except Abort)) (String × Int) String Int where
  key r := do
    modify (· + 1)
    return r.1
  zero := pure 0
  add a r := a + r.2

/-- Two reads of a serial aggregation of three records ask for three names. -/
theorem session_runs_once_names :
    let records : List (String × Int) := [("a", 1), ("b", 10), ("a", 2)]
    let rs : List ViewRequest :=
      [.observe .inspect, .observe .isEvaluated, .read, .observe .isEvaluated, .read]
    let view := sumsByName.deferred .inPlace records .serial
    Course (sumsByName.eager .inPlace records .serial) 0 rs .intoValue
        ((view.counted.session rs .intoValue).run 0) ∧
      ((view.session rs .intoValue).run 0).map Prod.snd = .ok 3 := by
  intro records rs view
  obtain ⟨hcourse, hcounted⟩ :=
    session_runs_once sumsByName .inPlace records .serial 0 rs .intoValue
  refine ⟨hcourse, ?_⟩
  rw [← hcounted]
  rfl

end Aggregation

end Groupwise
