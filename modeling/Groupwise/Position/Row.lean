import Groupwise.Position.Keys
import Groupwise.Text.Digits

/-!
# Consistent rows of positions

A row names an account, a product with its category and price, and a quantity. Rows become
positions one after the other. A price has to be finite and not negative, and a product that comes
again has to come with the category and the price it was first seen with.
-/

namespace Groupwise

/-- A position as it is written in a table. -/
structure PositionRow (V : Type) where
  account : String
  product : String
  category : String
  price : V
  quantity : Nat
deriving Repr

/-- Why a row is no position. -/
inductive RowFault (V : Type)
  | badPrice (price : V)
  | redefined (row : PositionRow V) (first : Product V)
deriving Repr

/-- The words for a row that is no position; `showPrice` writes a price. -/
def RowFault.message {V : Type} (showPrice : V → String) : RowFault V → String
  | badPrice price => "invalid price " ++ showPrice price
  | redefined row first =>
    "product " ++ first.name ++ " redefined (category " ++ row.category ++ " price " ++
      showPrice row.price ++ ", first seen as category " ++ first.category ++ " price " ++
      showPrice first.price ++ ")"

variable {V : Type} [Number V]

namespace PositionRow

/-- The row of a position. -/
def ofPosition (p : Position V) : PositionRow V :=
  ⟨p.account.name, p.product.name, p.category, p.product.price, p.quantity⟩

def hasGoodPrice (row : PositionRow V) : Bool :=
  Number.isFinite row.price && !Number.lt row.price Number.zero

/-- The row describes a product as it is. -/
def agrees (row : PositionRow V) (p : Product V) : Bool :=
  p.category == row.category && Number.equal p.price row.price

end PositionRow

/-- The position of a row, its keys taken from the pools. -/
def PositionKeys.register (keys : PositionKeys V) (row : PositionRow V) :
    Except (RowFault V) (PooledPosition V × PositionKeys V) :=
  if row.hasGoodPrice then
    let (product, category, keys) := keys.product row.product row.category row.price
    if row.agrees product.value then
      let (account, keys) := keys.account row.account
      .ok (⟨account, product, category, row.quantity⟩, keys)
    else .error (.redefined row product.value)
  else .error (.badPrice row.price)

end Groupwise
