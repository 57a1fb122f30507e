import Groupwise.Json.Value
import Groupwise.Position

/-!
# Positions as JSON

Accounts, products and positions are objects of their fields; a key is an object whose only member
is named after its kind.
-/

namespace Groupwise

open Json

instance : ToValue Account := ⟨fun a => .object [("name", .string a.name)]⟩

variable {V : Type} [ToValue V]

instance : ToValue (Product V) where
  toValue p := .object [("name", .string p.name), ("category", .string p.category),
    ("price", toValue p.price)]

instance : ToValue (Position V) where
  toValue p := .object [("account", toValue p.account), ("product", toValue p.product),
    ("quantity", .natural p.quantity)]

instance : ToValue (GroupKey V) where
  toValue
    | .product p => .object [("product", toValue p)]
    | .account a => .object [("account", toValue a)]
    | .category c => .object [("category", .string c)]

end Groupwise
