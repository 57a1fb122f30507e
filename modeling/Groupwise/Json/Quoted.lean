import Groupwise.Json.Fault
import Groupwise.Text.Digits

/-!
# Strings in JSON texts

`quote` writes a string: quotes, backslashes and control characters are escaped, all else stands
for itself. `Reader.quoted` reads what follows an opening quote, every escape of the format
included; a code point beyond the basic plane may come as a pair of surrogates.
-/

namespace Groupwise.Json

/-- The code unit of four hexadecimal digits. -/
def codeUnit (a b c d : Char) : Option Nat := do
  return (((← Hex.value? a) * 16 + (← Hex.value? b)) * 16 + (← Hex.value? c)) * 16 +
    (← Hex.value? d)

/-- The text of one character inside quotes. -/
def escape (c : Char) : List Char :=
  if c = '"' then ['\\', '"']
  else if c = '\\' then ['\\', '\\']
  else if c = '\n' then ['\\', 'n']
  else if c = '\r' then ['\\', 'r']
  else if c = '\t' then ['\\', 't']
  else if c = '\x08' then ['\\', 'b']
  else if c = '\x0c' then ['\\', 'f']
  else if c.toNat < 0x20 then
    ['\\', 'u', '0', '0', Nat.digitChar (c.toNat / 16), Nat.digitChar (c.toNat % 16)]
  else [c]

/-- A string between quotes. -/
def quote (s : List Char) : List Char := '"' :: (s.flatMap escape ++ ['"'])

/-- The character that a one-letter escape stands for. -/
def shortEscape : Char → Option Char
  | '"' => some '"'
  | '\\' => some '\\'
  | '/' => some '/'
  | 'b' => some '\x08'
  | 'f' => some '\x0c'
  | 'n' => some '\n'
  | 'r' => some '\r'
  | 't' => some '\t'
  | _ => none

/-- The fault of a code unit escape with less than four characters behind it. -/
def cutEscape (rest : List Char) : Fault :=
  if rest.foldl (fun n c => n + c.utf8Size) 0 < 4 then .ended else .malformed

/-- One more character in front of what was read. -/
def pushChar (c : Char) :
    Except Fault (List Char × List Char) → Except Fault (List Char × List Char)
  | .ok (s, rest) => .ok (c :: s, rest)
  | .error f => .error f

/-- The characters of a string up to its closing quote. -/
def unquote : List Char → Except Fault (List Char × List Char)
  | [] => .error .ended
  | '"' :: rest => .ok ([], rest)
  | ['\\'] => .error .ended
  | '\\' :: 'u' :: a :: b :: c :: d :: rest =>
    match codeUnit a b c d with
    | none => .error .malformed
    | some n =>
      if n < 0xD800 ∨ 0xDFFF < n then pushChar (Char.ofNat n) (unquote rest)
      else if 0xDC00 ≤ n then .error .malformed
      else
        match rest with
        | [] => .error .ended
        | ['\\'] => .error .ended
        | '\\' :: 'u' :: a :: b :: c :: d :: rest =>
          match codeUnit a b c d with
          | none => .error .malformed
          | some m =>
            if m < 0xDC00 ∨ 0xDFFF < m then .error .malformed
            else
              pushChar (Char.ofNat ((n - 0xD800) * 0x400 + (m - 0xDC00) + 0x10000)) (unquote rest)
        | '\\' :: 'u' :: rest => .error (cutEscape rest)
        | _ => .error .malformed
  | '\\' :: 'u' :: rest => .error (cutEscape rest)
  | '\\' :: c :: rest =>
    match shortEscape c with
    | none => .error .malformed
    | some e => pushChar e (unquote rest)
  | c :: rest => if c.toNat < 0x20 then .error .malformed else pushChar c (unquote rest)

/-- The rest behind the closing quote, when the string itself is of no interest: its code units
need not make sense. -/
def skipQuoted : List Char → Except Fault (List Char)
  | [] => .error .ended
  | '"' :: rest => .ok rest
  | ['\\'] => .error .ended
  | '\\' :: 'u' :: a :: b :: c :: d :: rest =>
    match codeUnit a b c d with
    | none => .error .malformed
    | some _ => skipQuoted rest
  | '\\' :: 'u' :: rest => .error (cutEscape rest)
  | '\\' :: c :: rest =>
    match shortEscape c with
    | none => .error .malformed
    | some _ => skipQuoted rest
  | c :: rest => if c.toNat < 0x20 then .error .malformed else skipQuoted rest

namespace Reader

/-- A string whose opening quote is behind. -/
def quoted : Reader String := fun s => (unquote s).map fun (cs, rest) => (String.ofList cs, rest)

/-- Pass over a string whose opening quote is behind. -/
def passQuoted : Reader Unit := fun s => (skipQuoted s).map fun rest => ((), rest)

end Reader

end Groupwise.Json
