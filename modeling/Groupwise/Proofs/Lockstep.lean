import Mathlib

/-!
# Computations in lockstep

Two computations in a monad are in lockstep when they have the same effects and related results:
both are the two sides of one computation of related pairs. What is in lockstep step by step is so
as a whole (`Lockstep.foldlM`); in a monad with known effects the relation can be read off the
results (`Lockstep.of_ok`, `Lockstep.of_run`, `Lockstep.of_run_ok`).
-/

namespace Groupwise

variable {m : Type → Type} [Monad m] {α β α' β' ρ : Type}

/-- The same effects, and results related by `r`. -/
def Lockstep (r : α → β → Prop) (x : m α) (y : m β) : Prop :=
  ∃ z : m {p : α × β // r p.1 p.2}, (fun p => p.1.1) <$> z = x ∧ (fun p => p.1.2) <$> z = y

namespace Lockstep

/-! ### In any monad -/

section

variable [LawfulMonad m]

lemma pure {r : α → β → Prop} {a : α} {b : β} (h : r a b) :
    Lockstep r (Pure.pure a : m α) (Pure.pure b) :=
  ⟨Pure.pure ⟨(a, b), h⟩, by simp, by simp⟩

/-- One computation in lockstep with itself. -/
lemma same {r : α → α → Prop} (hr : ∀ a, r a a) (x : m α) : Lockstep r x x :=
  ⟨(fun a => ⟨(a, a), hr a⟩) <$> x, by simp, by simp⟩

lemma bind {r : α → β → Prop} {r' : α' → β' → Prop} {x : m α} {y : m β} {f : α → m α'}
    {g : β → m β'} (h : Lockstep r x y) (hfg : ∀ a b, r a b → Lockstep r' (f a) (g b)) :
    Lockstep r' (x >>= f) (y >>= g) := by
  obtain ⟨z, rfl, rfl⟩ := h
  choose next hleft hright using fun p : {p : α × β // r p.1 p.2} => hfg p.1.1 p.1.2 p.2
  refine ⟨z >>= next, ?_, ?_⟩
  · simp [map_bind, hleft]
  · simp [map_bind, hright]

lemma map {r : α → β → Prop} {r' : α' → β' → Prop} {x : m α} {y : m β} {f : α → α'} {g : β → β'}
    (h : Lockstep r x y) (hfg : ∀ a b, r a b → r' (f a) (g b)) :
    Lockstep r' (f <$> x) (g <$> y) := by
  simp only [map_eq_pure_bind]
  exact h.bind fun a b hab => pure (hfg a b hab)

lemma mono {r r' : α → β → Prop} {x : m α} {y : m β} (h : Lockstep r x y)
    (hr : ∀ a b, r a b → r' a b) : Lockstep r' x y := by
  have hmap := h.map (f := id) (g := id) hr
  rwa [id_map, id_map] at hmap

/-- Folds whose steps are in lockstep are in lockstep. -/
lemma foldlM {r : α → β → Prop} {f : α → ρ → m α} {g : β → ρ → m β}
    (hfg : ∀ a b x, r a b → Lockstep r (f a x) (g b x)) (xs : List ρ) {a : α} {b : β}
    (h : r a b) : Lockstep r (xs.foldlM f a) (xs.foldlM g b) := by
  induction xs generalizing a b with
  | nil => exact pure h
  | cons x xs ih =>
    rw [List.foldlM_cons, List.foldlM_cons]
    exact (hfg a b x h).bind fun _ _ hab => ih hab

end

/-! ### Reading the relation off -/

variable {ε σ : Type}

lemma of_ok {r : α → β → Prop} {x : Except ε α} {b : β} (h : Lockstep r x (.ok b)) :
    ∃ a, x = .ok a ∧ r a b := by
  obtain ⟨z, rfl, hz⟩ := h
  cases z with
  | error e => simp [Functor.map, Except.map] at hz
  | ok p =>
    obtain rfl : p.1.2 = b := by simpa [Functor.map, Except.map] using hz
    exact ⟨p.1.1, rfl, p.2⟩

lemma of_run {r : α → β → Prop} {x : StateM σ α} {y : StateM σ β} (h : Lockstep r x y) (s : σ) :
    r (x.run s).1 (y.run s).1 ∧ (x.run s).2 = (y.run s).2 := by
  obtain ⟨z, rfl, rfl⟩ := h
  exact ⟨(z.run s).1.2, rfl⟩

lemma of_run_ok {r : α → β → Prop} {x : StateT σ (Except ε) α} {y : StateT σ (Except ε) β}
    (h : Lockstep r x y) {s s' : σ} {b : β} (hy : y.run s = .ok (b, s')) :
    ∃ a, x.run s = .ok (a, s') ∧ r a b := by
  obtain ⟨z, rfl, rfl⟩ := h
  rw [StateT.run_map] at hy
  cases hz : z.run s with
  | error e => simp [hz, Functor.map, Except.map] at hy
  | ok q =>
    obtain ⟨p, t⟩ := q
    simp only [hz, Functor.map, Except.map, Except.ok.injEq, Prod.mk.injEq] at hy
    obtain ⟨rfl, rfl⟩ := hy
    exact ⟨p.1.1, by rw [StateT.run_map, hz]; rfl, p.2⟩

end Lockstep

end Groupwise
