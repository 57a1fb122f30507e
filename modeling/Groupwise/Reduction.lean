/-!
# Reductions

Partial results are reduced to one pairwise, in input order but under any bracketing, and the
identity may be thrown in anywhere. A `Reduction` is the tree of such a computation.
-/

namespace Groupwise

/-- A bracketing of partial results in order. -/
inductive Reduction (α : Type)
  /-- The identity of the reduction. -/
  | identity
  /-- One partial result. -/
  | part (a : α)
  | join (left right : Reduction α)
deriving Repr

namespace Reduction

variable {m : Type → Type} [Monad m] {α β : Type}

/-- The partial results from left to right. -/
def leaves : Reduction α → List α
  | identity => []
  | part a => [a]
  | join l r => l.leaves ++ r.leaves

/-- The result of the reduction. -/
def value (one : α) (op : α → α → α) : Reduction α → α
  | identity => one
  | part a => a
  | join l r => op (l.value one op) (r.value one op)

/-- The same bracketing of other parts, made from left to right. -/
def mapM (f : α → m β) : Reduction α → m (Reduction β)
  | identity => return identity
  | part a => return part (← f a)
  | join l r => return join (← l.mapM f) (← r.mapM f)

/-- The bracketing to the left that starts from the identity. -/
def leftToRight (parts : List α) : Reduction α :=
  parts.foldl (fun t a => join t (part a)) identity

@[simp] theorem leaves_identity : (identity : Reduction α).leaves = [] := rfl

@[simp] theorem leaves_part (a : α) : (part a).leaves = [a] := rfl

@[simp] theorem leaves_join (l r : Reduction α) : (join l r).leaves = l.leaves ++ r.leaves := rfl

theorem leaves_foldl_join (t : Reduction α) (parts : List α) :
    (parts.foldl (fun t a => join t (part a)) t).leaves = t.leaves ++ parts := by
  induction parts generalizing t with
  | nil => simp
  | cons a parts ih => simp [ih]

@[simp] theorem leaves_leftToRight (parts : List α) : (leftToRight parts).leaves = parts := by
  simp [leftToRight, leaves_foldl_join]

end Reduction

end Groupwise
