import Groupwise.Decimal.Style
import Groupwise.Json.Quoted

/-!
# Writing JSON

A `Value` is what a JSON text says; `Value.render` writes it without any white space, members in
their order. Not every value of the library has such a form: `encode?` of `Encode` says so.
-/

namespace Groupwise.Json

/-- A JSON value; objects list their members in order. -/
inductive Value
  | null
  | natural (n : Nat)
  | integer (i : Int)
  | float (x : Float)
  | string (s : String)
  | array (elements : List Value)
  | object (members : List (String × Value))

namespace Value

/-- The text of an integer. -/
def integerText (i : Int) : List Char :=
  if i < 0 then '-' :: Nat.toDigits 10 i.natAbs else Nat.toDigits 10 i.natAbs

mutual

/-- The characters of a value. -/
def chars : Value → List Char
  | null => ['n', 'u', 'l', 'l']
  | natural n => Nat.toDigits 10 n
  | integer i => integerText i
  | float x => (Decimal.json.render x).toList
  | string s => quote s.toList
  | array vs => '[' :: (elementChars vs ++ [']'])
  | object ms => '{' :: (memberChars ms ++ ['}'])

/-- Elements separated by commas. -/
def elementChars : List Value → List Char
  | [] => []
  | [v] => chars v
  | v :: vs => chars v ++ ',' :: elementChars vs

/-- Members separated by commas. -/
def memberChars : List (String × Value) → List Char
  | [] => []
  | [(name, v)] => quote name.toList ++ ':' :: chars v
  | (name, v) :: ms => quote name.toList ++ ':' :: (chars v ++ ',' :: memberChars ms)

end

/-- The text of a value. -/
def render (v : Value) : String := String.ofList v.chars

/-- A value if there is one, `null` if not. -/
def ofOption {α : Type} (f : α → Value) : Option α → Value
  | none => null
  | some a => f a

end Value

/-- Why a value has no JSON form. -/
inductive EncodeError
  /-- A member name would not be a string. -/
  | keyNotString
deriving DecidableEq, Repr

def EncodeError.message : EncodeError → String
  | .keyNotString => "key must be a string"

/-- Types whose values have a JSON form. -/
class Encode (α : Type) where
  encode? : α → Except EncodeError Value

export Encode (encode?)

/-- Types whose values all have a JSON form. -/
class ToValue (α : Type) where
  toValue : α → Value

export ToValue (toValue)

instance {α : Type} [ToValue α] : Encode α := ⟨fun a => .ok (toValue a)⟩

instance : ToValue Nat := ⟨.natural⟩

instance : ToValue Int := ⟨.integer⟩

instance : ToValue Float := ⟨.float⟩

instance : ToValue String := ⟨.string⟩

instance {α : Type} [ToValue α] : ToValue (Option α) := ⟨Value.ofOption toValue⟩

end Groupwise.Json
