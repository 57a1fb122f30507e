import Groupwise.Command.Error
import Groupwise.Config.Layers
import Groupwise.Generator

/-!
# Generating a table

The command writes a table of generated positions and says how many there are and from which seed.
-/

namespace Groupwise

/-- What is printed about the positions of a generator. -/
def Generator.summary (g : Generator) (positions : Nat) (path : String) : List String :=
  ["✓ Wrote " ++ natText positions ++ " positions to " ++ path,
    "  Seed: " ++ natText g.seed,
    "  Distinct: " ++ natText g.distinctAccounts ++ " accounts, " ++ natText g.distinctProducts ++
      " products, " ++ natText g.distinctCategories ++ " categories"]

namespace Host

variable {m : Type → Type} [Monad m]

/-- The generator for a seed, or for one drawn at random. -/
def generator (h : Host m) (seed : Option Nat) : Step m Generator := do
  match seed with
  | some n => return .ofSeed n
  | none => return .ofSeed (← h.newSeed)

/-- Write a table of generated positions. -/
def generate (h : Host m) (size seed : Option Nat) (path : String) : Step m Unit := do
  let config := Config.layered h.lookup none (.ofOptions none none size seed)
  let g ← h.generator config.seed
  attempt .table (h.create path)
  let (positions, g) := g.generate config.datasetSize
  h.writeTable path (PositionTable.write PositionTable.writer positions).1
  h.printLines (g.summary positions.length path)

end Host

end Groupwise
