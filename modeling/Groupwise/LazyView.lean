/-!
# Lazy views

A view holds a computation that has not run yet, or its result. The computation runs at the first
read and never again.
-/

namespace Groupwise

/-- A computation in `m` that runs at most once. -/
inductive LazyView (m : Type → Type) (α : Type)
  | pending (thunk : m α)
  | evaluated (value : α)

namespace LazyView

variable {m : Type → Type} [Monad m] {α : Type}

def isEvaluated : LazyView m α → Bool
  | pending _ => false
  | evaluated _ => true

/-- The value, and the view after it was read. -/
def force : LazyView m α → m (α × LazyView m α)
  | pending thunk => do
    let a ← thunk
    return (a, evaluated a)
  | evaluated a => return (a, evaluated a)

/-- The value; the view is used up. -/
def intoValue : LazyView m α → m α
  | pending thunk => thunk
  | evaluated a => return a

end LazyView

end Groupwise
