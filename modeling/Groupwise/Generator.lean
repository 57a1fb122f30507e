import Groupwise.Generator.Random
import Groupwise.Position.Keys
import Groupwise.Text.Digits

/-!
# Generated positions

A `Generator` makes positions from random draws. Accounts, products and categories go through
pools, so a product keeps the category and the price it was first drawn with, and the sizes of the
pools count the distinct names that were drawn.
-/

namespace Groupwise

/-- One draw: numbers for the names, a price and a quantity. -/
structure Draw (V : Type) where
  account : Nat
  product : Nat
  letter : Nat
  price : V
  quantity : Nat
deriving Repr

/-- A random draw: an account below 100000, a product below 1000, one of 26 letters, a price from 1
to 100 and a quantity from 1 to 9. -/
def Draw.random : StateM Random (Draw Float) := do
  let account ← Random.below 100000
  let product ← Random.below 1000
  let letter ← Random.below 26
  let price ← Random.price
  let quantity ← Random.below 9
  return ⟨account, product, letter, price, 1 + quantity⟩

/-- A number of random draws. -/
def Draw.randoms (n : Nat) : StateM Random (List (Draw Float)) :=
  (List.range n).mapM fun _ => Draw.random

/-- A number in at least `width` digits. -/
def paddedName (width n : Nat) : String :=
  let digits := Nat.toDigits 10 n
  String.ofList (List.replicate (width - digits.length) '0' ++ digits)

/-- The category with the given number. -/
def letterName (n : Nat) : String := String.ofList [Char.ofNat ('A'.toNat + n)]

namespace PositionKeys

variable {V : Type}

/-- The position of a draw. -/
def draw (keys : PositionKeys V) (d : Draw V) : Position V × PositionKeys V :=
  let (account, keys) := keys.account (paddedName 5 d.account)
  let (product, _, keys) := keys.product (paddedName 3 d.product) (letterName d.letter) d.price
  (⟨account.value, product.value, d.quantity⟩, keys)

/-- The positions of a sequence of draws. -/
def draws (keys : PositionKeys V) : List (Draw V) → List (Position V) × PositionKeys V
  | [] => ([], keys)
  | d :: ds =>
    let (p, keys) := keys.draw d
    let (ps, keys) := keys.draws ds
    (p :: ps, keys)

end PositionKeys

/-- A source of positions. -/
structure Generator where
  seed : Nat
  random : Random
  keys : PositionKeys Float

namespace Generator

/-- The generator of a seed. -/
def ofSeed (seed : Nat) : Generator := ⟨seed, .ofSeed seed.toUInt64, .empty⟩

/-- A number of further positions. -/
def generate (g : Generator) (n : Nat) : List (Position Float) × Generator :=
  let (draws, random) := (Draw.randoms n).run g.random
  let (ps, keys) := g.keys.draws draws
  (ps, ⟨g.seed, random, keys⟩)

/-- One more position. -/
def next (g : Generator) : Position Float × Generator :=
  let drawn := Draw.random.run g.random
  let made := g.keys.draw drawn.1
  (made.1, ⟨g.seed, drawn.2, made.2⟩)

/-- The positions in random order. -/
def shuffle (g : Generator) (ps : List (Position Float)) : List (Position Float) × Generator :=
  let (ps, random) := (Random.shuffle ps).run g.random
  (ps, { g with random := random })

def distinctAccounts (g : Generator) : Nat := g.keys.accounts.size

def distinctProducts (g : Generator) : Nat := g.keys.products.size

def distinctCategories (g : Generator) : Nat := g.keys.categories.size

end Generator

end Groupwise
