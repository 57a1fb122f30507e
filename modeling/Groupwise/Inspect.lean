import Groupwise.Decimal.Style
import Groupwise.GroupMap
import Groupwise.LazyView
import Groupwise.Position
import Groupwise.Stats.Accumulator
import Groupwise.Text.Digits
import Groupwise.Text.Quoted

/-!
# How values look inside messages

Numbers show as themselves; records show their name and their fields in order, maps their entries.
-/

namespace Groupwise

instance : Inspect Nat := ⟨natText⟩

instance : Inspect Int := ⟨intText⟩

instance : Inspect Float := ⟨Decimal.inspect.render⟩

/-- A record with named fields. -/
def inspectRecord (name : String) (fields : List (String × String)) : String :=
  let shown := fields.map fun f => f.1 ++ ": " ++ f.2
  name ++ " \x7b " ++ String.intercalate ", " shown ++ " \x7d"

/-- A value under the name of its kind. -/
def inspectTagged (name text : String) : String := name ++ "(" ++ text ++ ")"

instance {K A : Type} [BEq K] [Inspect K] [Inspect A] : Inspect (GroupMap K A) where
  inspect g :=
    let shown := g.entries.map fun e => inspect e.1 ++ ": " ++ inspect e.2
    "\x7b" ++ String.intercalate ", " shown ++ "\x7d"

/-- A view that was not read yet does not say more. -/
instance {m : Type → Type} {α : Type} [Inspect α] : Inspect (LazyView m α) where
  inspect
    | .pending _ => inspectTagged "LazyAggregation" "<pending>"
    | .evaluated a => inspectTagged "LazyAggregation" (inspect a)

instance {V : Type} [Inspect V] : Inspect (Stats V) where
  inspect s := inspectRecord "MarketValueStats"
    [("count", inspect s.count.toNat), ("sum", inspect s.sum), ("min", inspect s.min),
      ("max", inspect s.max)]

instance {V : Type} [Inspect V] : Inspect (Accumulator V) where
  inspect a := inspectRecord "MarketValueAccumulator"
    [("count", inspect a.count.toNat), ("sum", inspect a.compensated.sum),
      ("compensation", inspect a.compensated.compensation), ("simple_sum", inspect a.plainSum),
      ("min", inspect a.min), ("max", inspect a.max)]

instance : Inspect Account where
  inspect a := inspectRecord "Account" [("name", inspect a.name)]

instance {V : Type} [Inspect V] : Inspect (Product V) where
  inspect p := inspectRecord "Product"
    [("name", inspect p.name), ("category", inspect p.category), ("price", inspect p.price)]

instance {V : Type} [Inspect V] : Inspect (Position V) where
  inspect p := inspectRecord "Position"
    [("account", inspect p.account), ("product", inspect p.product),
      ("quantity", inspect p.quantity)]

instance {V : Type} [Inspect V] : Inspect (GroupKey V) where
  inspect
    | .product p => inspectTagged "Product" (inspect p)
    | .account a => inspectTagged "Account" (inspect a)
    | .category c => inspectTagged "Category" (inspect c)

end Groupwise
