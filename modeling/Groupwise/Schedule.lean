import Groupwise.Reduction
import Groupwise.SharedMap
import Groupwise.Word

/-!
# Schedules

What the workers of a pool do next is not determined by the program. A `Schedule` fixes all of
it for one run: how partial results are bracketed, in which order the workers of a shared map take
their steps, and how keys are spread over shards. Results are stated for every schedule; programs
run on `Schedule.inOrder`.
-/

namespace Groupwise

/-- The choices that a parallel run leaves open. -/
structure Schedule (K : Type) [BEq K] where
  /-- How the partial results of batches are bracketed. -/
  reduction : {α : Type} → List α → Reduction α
  leaves_reduction : ∀ {α : Type} (parts : List α), (reduction parts).leaves = parts
  /-- Whose turn it is on a shared map, step by step. -/
  turns : List Nat
  spread : KeyHash K

/-- Batches one after the other, partial results joined from the left. -/
def Schedule.inOrder {K : Type} [BEq K] (spread : KeyHash K) : Schedule K where
  reduction := Reduction.leftToRight
  leaves_reduction := Reduction.leaves_leftToRight
  turns := []
  spread := spread

/-- A hash of a text. -/
def textHash (s : String) : Nat := s.toList.foldl (fun h c => (31 * h + c.toNat) % halfBound) 7

instance : Inhabited (KeyHash String) := ⟨⟨textHash, by simp⟩⟩

end Groupwise
