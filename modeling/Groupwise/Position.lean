import Groupwise.Number

/-!
# Positions and the keys they are grouped by

A position is held in an account and consists of a quantity of a product. Accounts and products
compare by name only: two products of one name are the same key even if their prices differ. A
`GroupKey` is an account, a product or a category; keys of different kinds differ, and products
come before accounts before categories.
-/

namespace Groupwise

variable {V : Type}

/-- The holder of positions. -/
structure Account where
  name : String
deriving DecidableEq, Repr

instance : Ord Account := ⟨fun a b => compare a.name b.name⟩

/-- What positions are held in; `V` is the type of prices. -/
structure Product (V : Type) where
  name : String
  category : String
  price : V
deriving Repr

namespace Product

instance : BEq (Product V) := ⟨fun p q => p.name == q.name⟩

instance : Ord (Product V) := ⟨fun p q => compare p.name q.name⟩

@[simp] theorem beq_iff {p q : Product V} : (p == q) = true ↔ p.name = q.name :=
  beq_iff_eq (α := String)

instance : EquivBEq (Product V) where
  rfl := by simp
  symm h := by simp_all
  trans h h' := by simp_all

end Product

/-- A quantity of a product in an account. -/
structure Position (V : Type) where
  account : Account
  product : Product V
  quantity : Nat
deriving Repr

namespace Position

def category (p : Position V) : String := p.product.category

/-- What the position is worth. -/
def marketValue [Number V] (p : Position V) : V := Number.scale p.quantity p.product.price

end Position

/-- What positions are grouped by. -/
inductive GroupKey (V : Type)
  | product (p : Product V)
  | account (a : Account)
  | category (c : String)
deriving Repr

namespace GroupKey

def name : GroupKey V → String
  | product p => p.name
  | account a => a.name
  | category c => c

/-- The place of the kind of a key among all kinds. -/
def rank : GroupKey V → Nat
  | product _ => 0
  | account _ => 1
  | category _ => 2

instance : BEq (GroupKey V) := ⟨fun k l => k.rank == l.rank && k.name == l.name⟩

instance : Ord (GroupKey V) := ⟨fun k l => (compare k.rank l.rank).then (compare k.name l.name)⟩

@[simp] theorem beq_iff {k l : GroupKey V} : (k == l) = true ↔ k.rank = l.rank ∧ k.name = l.name :=
  by simp [BEq.beq]

instance : EquivBEq (GroupKey V) where
  rfl := by simp
  symm h := by simp_all
  trans h h' := by simp_all

end GroupKey

/-- The ways to group positions. -/
inductive Grouping
  | product
  | account
  | category
deriving DecidableEq, Repr

namespace Grouping

/-- The key of a position. -/
def key : Grouping → Position V → GroupKey V
  | product, p => .product p.product
  | account, p => .account p.account
  | category, p => .category p.category

end Grouping

end Groupwise
