import Groupwise.Text.Printable

/-!
# Texts shown for inspection

Inside messages a text stands between double quotes, with escapes for the quote, the backslash and
everything that would not be seen as a character of its own. `Inspect` is the class of types that
have such a form.
-/

namespace Groupwise.Text

/-- A code point escape. -/
def codePoint (c : Char) : List Char :=
  ['\\', 'u', '\x7b'] ++ Nat.toDigits 16 c.toNat ++ ['\x7d']

/-- One character between double quotes. -/
def shown (c : Char) : List Char :=
  if c = '\x00' then ['\\', '0']
  else if c = '\t' then ['\\', 't']
  else if c = '\r' then ['\\', 'r']
  else if c = '\n' then ['\\', 'n']
  else if c = '"' then ['\\', '"']
  else if c = '\\' then ['\\', '\\']
  else if c.toNat < 0x7f then if c.toNat < 0x20 then codePoint c else [c]
  else if isExtending c || !isPrintable c then codePoint c
  else [c]

/-- A text between double quotes. -/
def quoted (s : String) : String := String.ofList ('"' :: (s.toList.flatMap shown ++ ['"']))

end Groupwise.Text

namespace Groupwise

/-- Types whose values can be shown for inspection. -/
class Inspect (α : Type) where
  inspect : α → String

export Inspect (inspect)

instance : Inspect String := ⟨Text.quoted⟩

end Groupwise
