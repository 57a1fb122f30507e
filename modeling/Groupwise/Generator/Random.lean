import Groupwise.Word

/-!
# Random numbers

The generator of random words is xoshiro256++, its four words of state filled from a seed by
SplitMix64. On top of it stand numbers below a bound, prices, and the choice of indices for
shuffling a list.
-/

namespace Groupwise

/-- The state of a source of random words. -/
structure Random where
  s0 : UInt64
  s1 : UInt64
  s2 : UInt64
  s3 : UInt64
deriving DecidableEq, Repr

namespace Random

/-! ### Words -/

/-- A word rotated to the left by `n < 64` bits. -/
def rotate (w n : UInt64) : UInt64 := (w <<< n) ||| (w >>> (64 - n))

/-- The output of SplitMix64 for a state. -/
def splitMix (z : UInt64) : UInt64 :=
  let z := (z ^^^ (z >>> 30)) * 0xbf58476d1ce4e5b9
  let z := (z ^^^ (z >>> 27)) * 0x94d049bb133111eb
  z ^^^ (z >>> 31)

/-- The source that a seed stands for. -/
def ofSeed (seed : UInt64) : Random :=
  let step : UInt64 := 0x9e3779b97f4a7c15
  ⟨splitMix (seed + step), splitMix (seed + 2 * step), splitMix (seed + 3 * step),
    splitMix (seed + 4 * step)⟩

/-- A random word of 64 bits. -/
def word : StateM Random UInt64 := fun r =>
  let out := rotate (r.s0 + r.s3) 23 + r.s0
  let t := r.s1 <<< 17
  let s2 := r.s2 ^^^ r.s0
  let s3 := r.s3 ^^^ r.s1
  (out, ⟨r.s0 ^^^ s3, r.s1 ^^^ s2, s2 ^^^ t, rotate s3 45⟩)

/-- The high half of a random word. -/
def half : StateM Random Nat := do return (← word).toNat / halfBound

/-! ### Numbers in ranges -/

/-- A random number below `n`, for `n` up to `halfBound`: a random fraction of `n`, refined by a
second draw if the first one leaves the integer part in doubt. -/
def below (n : Nat) : StateM Random Nat := do
  let product := (← half) * n
  let hi := product / halfBound
  let lo := product % halfBound
  if halfBound < lo + n then
    let refined := lo + (← half) * n / halfBound
    return hi + refined / halfBound
  else return hi

/-- A random price from 1 up to 100. -/
def price : StateM Random Float := do
  let mantissa := (← word) >>> 12
  let fraction := Float.ofBits (0x3ff0000000000000 ||| mantissa) - 1.0
  return fraction * 99.0 + 1.0

/-! ### Shuffling -/

/-- Random indices with bounds 1, 2, 3 and so on. Several of them are taken from one draw, as many
as a product of bounds below `2 ^ 32` allows. -/
structure Chooser where
  /-- The bound of the last index. -/
  bound : Nat
  /-- The rest of the last draw. -/
  chunk : Nat
  /-- How many indices the rest is good for. -/
  remaining : Nat
deriving Repr

namespace Chooser

def start : Chooser := ⟨0, 0, 1⟩

/-- The product `product * (product of the next bounds from current)` as far as it stays below
`halfBound`, and the number of its factors. -/
def extend : Nat → Nat → Nat → Nat → Nat × Nat
  | 0, product, _, count => (product, count)
  | fuel + 1, product, current, count =>
    if product * current < halfBound then extend fuel (product * current) (current + 1) (count + 1)
    else (product, count)

/-- The largest product of consecutive bounds from `n` on, and the number of its factors. -/
def product (n : Nat) : Nat × Nat := extend 32 n (n + 1) 1

/-- The next index. -/
def next (c : Chooser) : StateM Random (Nat × Chooser) := do
  let bound := c.bound + 1
  let (chunk, remaining) ←
    if c.remaining = 0 then do
      let (product, count) := product bound
      pure (← below product, count - 1)
    else pure (c.chunk, c.remaining - 1)
  if remaining = 0 then return (chunk, ⟨bound, chunk, remaining⟩)
  else return (chunk % bound, ⟨bound, chunk / bound, remaining⟩)

end Chooser

/-- A list in random order. -/
def shuffle {α : Type} (xs : List α) : StateM Random (List α) := do
  if xs.length < 2 then return xs
  let (out, _) ← (List.range xs.length).foldlM (fun (state : Array α × Chooser) i => do
    let (j, chooser) ← state.2.next
    return (state.1.swapIfInBounds i j, chooser)) (xs.toArray, Chooser.start)
  return out.toList

end Random

end Groupwise
