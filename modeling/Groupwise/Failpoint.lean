import Groupwise.Text.Blank
import Groupwise.Word

/-!
# Failpoints

A run is broken off where the program is stopped. For rehearsing failures, it can also be told to
break down at given points: each style of parallel aggregation has one such point, which every batch
passes first.
-/

namespace Groupwise

/-- Where a batch can be made to fail. -/
inductive Failpoint
  | batchFold
  | batchAccept
  | batchReduce
deriving DecidableEq, Repr

def Failpoint.name : Failpoint → String
  | batchFold => "panic_batch_fold"
  | batchAccept => "panic_batch_accept"
  | batchReduce => "panic_batch_reduce"

/-- Why a run was broken off. -/
inductive Abort
  | failpoint (point : Failpoint)
  | trap (cause : Trap)
deriving DecidableEq, Repr

def Abort.message : Abort → String
  | failpoint point => "failpoint triggered: " ++ point.name
  | trap cause => cause.message

/-- A computation of words, which breaks the run off where it is stopped. -/
def trapped {m : Type → Type} [Monad m] [MonadExceptOf Abort m] {α : Type} :
    Except Trap α → m α
  | .ok a => return a
  | .error cause => throw (.trap cause)

section

variable {m : Type → Type} [Monad m] [MonadExceptOf Abort m] {α : Type}

@[simp] theorem trapped_ok (a : α) : (trapped (.ok a) : m α) = pure a := rfl

@[simp] theorem trapped_error (cause : Trap) :
    (trapped (.error cause) : m α) = throw (.trap cause) := rfl

end

/-- The text that lists the armed failpoints, if there is one. -/
structure Failpoints where
  text : Option String
deriving DecidableEq, Repr

namespace Failpoints

def none : Failpoints := ⟨.none⟩

/-- A point is armed if its name is one of the items between the commas, blanks around it
aside. -/
def armed (f : Failpoints) (p : Failpoint) : Bool :=
  match f.text with
  | .none => false
  | some text => (text.toList.splitOn ',').any fun item => Text.trim item == p.name.toList

/-- Break off if the point is armed. -/
def pass {m : Type → Type} [Monad m] [MonadExceptOf Abort m] (f : Failpoints) (p : Failpoint) :
    m Unit :=
  if f.armed p then throw (.failpoint p) else return ()

end Failpoints

end Groupwise
