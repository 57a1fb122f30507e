import Groupwise.Json.Reader
import Groupwise.Json.Value
import Groupwise.Text.Digits

/-!
# Unique identifiers

An identifier of 16 bytes. It is written in lower-case hexadecimal with hyphens after 8, 12, 16 and
20 digits. It is also read without hyphens, and with hyphens in braces or behind `urn:uuid:`. The
case of letters does not matter.
-/

namespace Groupwise

/-- A universally unique identifier. -/
structure Uuid where
  bytes : List UInt8
  length_bytes : bytes.length = 16
deriving DecidableEq, Repr

namespace Uuid

/-- The identifier of nothing. -/
def zero : Uuid := ⟨List.replicate 16 0, rfl⟩

/-- The identifier of these bytes, if there are 16. -/
def ofBytes? (bytes : List UInt8) : Option Uuid :=
  if h : bytes.length = 16 then some ⟨bytes, h⟩ else none

/-- The identifier made from random bytes: the high bits of two of them say that it is. -/
def ofRandom (random : Fin 16 → UInt8) : Uuid where
  bytes := List.ofFn fun i =>
    if i = 6 then random i &&& 0x0F ||| 0x40
    else if i = 8 then random i &&& 0x3F ||| 0x80
    else random i
  length_bytes := List.length_ofFn

/-- The lengths of the groups of digits that a hyphen follows. -/
def groups : List Nat := [8, 4, 4, 4]

/-- Digits with hyphens behind groups of the given lengths. -/
def hyphenate : List Nat → List Char → List Char
  | [], ds => ds
  | n :: ns, ds => ds.take n ++ '-' :: hyphenate ns (ds.drop n)

/-- What is left without the hyphens, which have to be where they belong. -/
def unhyphenate? : List Nat → List Char → Option (List Char)
  | [], ds => some ds
  | n :: ns, ds =>
    match ds.drop n with
    | '-' :: rest => (ds.take n ++ ·) <$> unhyphenate? ns rest
    | _ => none

def text (u : Uuid) : String := String.ofList (hyphenate groups (Hex.encode u.bytes))

/-- The identifier of 32 digits. -/
def ofDigits? (ds : List Char) : Option Uuid := (Hex.decode? ds).bind ofBytes?

/-- The identifier of digits with hyphens. -/
def ofHyphenated? (s : List Char) : Option Uuid := (unhyphenate? groups s).bind ofDigits?

/-- What may stand in front of digits with hyphens. -/
def urn : List Char := "urn:uuid:".toList

/-- The identifier in any of its forms. -/
def ofText? (s : String) : Option Uuid :=
  let cs := s.toList
  if cs.head? = some '{' then
    if cs.getLast? = some '}' then ofHyphenated? cs.tail.dropLast else none
  else if (cs.take urn.length).map Char.toLower = urn then ofHyphenated? (cs.drop urn.length)
  else (ofHyphenated? cs).or (ofDigits? cs)

instance : Json.ToValue Uuid := ⟨fun u => .string u.text⟩

def reader : Json.Reader Uuid := Json.Reader.parsed ofText?

end Uuid

end Groupwise
