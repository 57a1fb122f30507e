import Groupwise.KeyPool
import Groupwise.Position

/-!
# The shared keys of positions

Positions made one after the other share their keys: each account, product and category goes
through a pool. The product of a name is the first one of that name.
-/

namespace Groupwise

/-- The keys of the positions made so far. -/
structure PositionKeys (V : Type) where
  accounts : KeyPool Account
  products : KeyPool (Product V)
  categories : KeyPool String

/-- A position and which instances its keys are. -/
structure PooledPosition (V : Type) where
  account : Pooled Account
  product : Pooled (Product V)
  category : Pooled String
  quantity : Nat

namespace PooledPosition

variable {V : Type}

def position (p : PooledPosition V) : Position V := ⟨p.account.value, p.product.value, p.quantity⟩

end PooledPosition

namespace PositionKeys

variable {V : Type}

def empty : PositionKeys V := ⟨.empty, .empty, .empty⟩

/-- The product of the given name, which is a new one if there was none, and the instance of the
category asked for. -/
def product (keys : PositionKeys V) (name category : String) (price : V) :
    Pooled (Product V) × Pooled String × PositionKeys V :=
  let (category, categories) := keys.categories.put category
  let (product, products) := keys.products.put ⟨name, category.value, price⟩
  (product, category, { keys with products := products, categories := categories })

/-- The account of the given name. -/
def account (keys : PositionKeys V) (name : String) : Pooled Account × PositionKeys V :=
  let (account, accounts) := keys.accounts.put ⟨name⟩
  (account, { keys with accounts := accounts })

end PositionKeys

end Groupwise
