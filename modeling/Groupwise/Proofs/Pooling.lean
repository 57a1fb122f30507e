import Groupwise.Position.Row
import Groupwise.Proofs.Interning
import Mathlib

/-!
# Rows that become positions

A pool gives back the first instance of a key. So an admitted row becomes a position whose product
is the first one of its name, and it is admitted if its price is good and it agrees with that
product.
-/

namespace Groupwise

variable {V : Type} [Number V] {keys keys' : PositionKeys V} {row : PositionRow V}
  {p : PooledPosition V}

/-- The product that a row describes. -/
def PositionRow.described (row : PositionRow V) : Product V :=
  ⟨row.product, row.category, row.price⟩

namespace PositionKeys

/-- What the position of an admitted row is, and what becomes of the products. -/
structure Admitted (keys : PositionKeys V) (row : PositionRow V) (p : Position V)
    (keys' : PositionKeys V) : Prop where
  price : row.hasGoodPrice = true
  agrees : row.agrees p.product = true
  account : p.account = ⟨row.account⟩
  name : p.product.name = row.product
  quantity : p.quantity = row.quantity
  product : p.product ∈ keys.products.entries ∧ keys'.products = keys.products ∨
    (∀ e ∈ keys.products.entries, e.name ≠ row.product) ∧ p.product = row.described ∧
      keys'.products.entries = keys.products.entries ++ [p.product]

omit [Number V] in
lemma product_eq (keys : PositionKeys V) (row : PositionRow V) :
    keys.product row.product row.category row.price =
      ((keys.products.put row.described).1, (keys.categories.put row.category).1,
        { keys with
          products := (keys.products.put row.described).2
          categories := (keys.categories.put row.category).2 }) := by
  simp only [product, KeyPool.value_put]
  rfl

lemma admitted_of_ok (h : keys.register row = .ok (p, keys')) :
    Admitted keys row p.position keys' := by
  rw [PositionKeys.register, product_eq] at h
  split_ifs at h with hprice
  dsimp only at h
  split_ifs at h with hagrees
  injection h with h
  injection h with hp hkeys
  subst hp hkeys
  obtain ⟨p, hp, hname, hput⟩ | ⟨hnew, hput⟩ := keys.products.put_cases row.described
  · simp only [PooledPosition.position, PositionKeys.account, hput] at hagrees ⊢
    exact ⟨hprice, hagrees, KeyPool.value_put _ _, Product.beq_iff.1 hname, rfl, .inl ⟨hp, rfl⟩⟩
  · have hnames : ∀ e ∈ keys.products.entries, e.name ≠ row.product := by
      intro e he hname
      exact Bool.false_ne_true ((hnew e he).symm.trans (Product.beq_iff.2 hname))
    simp only [PooledPosition.position, PositionKeys.account, hput] at hagrees ⊢
    exact ⟨hprice, hagrees, KeyPool.value_put _ _, rfl, rfl, .inr ⟨hnames, rfl, rfl⟩⟩

lemma exists_admitted (hprice : row.hasGoodPrice = true) (hself : row.agrees row.described = true)
    (hentries : ∀ e ∈ keys.products.entries, e.name = row.product → row.agrees e = true) :
    ∃ r, keys.register row = .ok r := by
  have hagrees : row.agrees (keys.products.put row.described).1.value = true := by
    obtain ⟨p, hp, hname, hput⟩ | ⟨-, hput⟩ := keys.products.put_cases row.described
    · rw [hput]
      exact hentries p.value hp (Product.beq_iff.1 hname)
    · rw [hput]
      exact hself
  rw [PositionKeys.register, product_eq]
  simp only [hprice, hagrees, ↓reduceIte]
  exact ⟨_, rfl⟩

end PositionKeys

end Groupwise
