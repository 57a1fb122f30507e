import Groupwise.Yaml.Tag

/-!
# Tokens of YAML texts

Blocks are formed by indentation, and a key is known to be one only by the colon behind it. The
scanner keeps the indentations of the open blocks and the token that may turn out to be a key. It
knows mappings only: the indicators of sequences, and braces within braces, are refused.
-/

namespace Groupwise.Yaml

inductive Token
  | directive (d : Directive)
  | documentStart
  | documentEnd
  | blockStart
  | blockEnd
  | flowStart
  | flowEnd
  | flowEntry
  | key
  | value
  | alias (name : List Char)
  | anchor (name : List Char)
  | tag (name : TagName)
  | scalar (style : ScalarStyle) (text : List Char)
deriving DecidableEq, Repr

/-! ### Places -/

/-- What is left of a text, and the place where it begins. -/
structure Cursor where
  rest : List Char
  index : Nat
  line : Nat
  column : Nat

namespace Cursor

/-- Behind the next character. Two characters that are one line break end one line. -/
def step (c : Cursor) : Cursor :=
  match c.rest with
  | [] => c
  | a :: rest =>
    if isBreak a && !(a = '\r' && rest.head? = some '\n') then
      ⟨rest, c.index + 1, c.line + 1, 0⟩
    else ⟨rest, c.index + 1, c.line, c.column + 1⟩

/-- Behind `n` more characters. -/
def advance : Nat → Cursor → Cursor
  | 0, c => c
  | n + 1, c => c.step.advance n

/-- The place where `rest` is left. -/
def seek (c : Cursor) (rest : List Char) : Cursor := c.advance (c.rest.length - rest.length)

end Cursor

/-! ### The scanner -/

/-- A token that may be the beginning of a key. -/
structure PossibleKey where
  /-- It has to be one: nothing else may stand here. -/
  required : Bool
  number : Nat
  index : Nat
  line : Nat
  column : Nat

/-- A text in scanning. -/
structure Scan where
  cursor : Cursor
  tokens : List Token
  /-- The indentations of the open blocks, the innermost first. -/
  indents : List Nat
  inFlow : Bool
  /-- A key may begin here. -/
  keyAllowed : Bool
  key? : Option PossibleKey

namespace Scan

def start (text : List Char) : Scan where
  cursor := ⟨text, 0, 0, 0⟩
  tokens := []
  indents := []
  inFlow := false
  keyAllowed := true
  key? := none

def push (t : Token) (s : Scan) : Scan := { s with tokens := s.tokens ++ [t] }

def seek (rest : List Char) (s : Scan) : Scan := { s with cursor := s.cursor.seek rest }

/-- The column that the lines of the innermost block have at least. -/
def leastColumn (s : Scan) : Nat :=
  match s.indents with
  | [] => 0
  | i :: _ => i + 1

/-- Open a block at `column`, unless it is open; it begins before the token of the given number. -/
def openBlock (column number : Nat) (s : Scan) : Scan :=
  if s.inFlow || column < s.leastColumn then s
  else { s with
    indents := column :: s.indents
    tokens := s.tokens.insertIdx number .blockStart }

/-- Close the blocks that are indented by more than `column`; all of them if there is none. -/
def closeBlocks (column : Option Nat) (s : Scan) : Scan :=
  if s.inFlow then s
  else
    let isInside (i : Nat) : Bool := column.all (· < i)
    { s with
      indents := s.indents.dropWhile isInside
      tokens := s.tokens ++ (s.indents.takeWhile isInside).map fun _ => .blockEnd }

/-- There is no possible key any more. -/
def dropKey (s : Scan) : Option Scan :=
  if s.key?.any (·.required) then none else some { s with key? := none }

/-- The next token may be the beginning of a key, if one is allowed here. -/
def saveKey (s : Scan) : Option Scan := do
  if s.keyAllowed then
    let s ← s.dropKey
    let c := s.cursor
    let required := !s.inFlow && s.indents.head? = some c.column
    return { s with
      key? := some ⟨required, s.tokens.length, c.index, c.line, c.column⟩
      keyAllowed := false }
  else return s

/-- A key ends on its line and within 1024 characters. -/
def dropStaleKey (s : Scan) : Option Scan :=
  if s.key?.any fun k => k.line < s.cursor.line || k.index + 1024 < s.cursor.index then s.dropKey
  else some s

/-- Pass over white space and comments. Tabs are white space only where no key may begin. A
byte-order mark may stand at the front of a line, of which it takes a column. -/
def skipGap : Nat → Scan → Scan
  | 0, s => s
  | fuel + 1, s =>
    let rest := s.cursor.rest
    let rest := if s.cursor.column = 0 && rest.head? = some '\uFEFF' then rest.tail else rest
    let tabs := s.inFlow || !s.keyAllowed
    let rest := rest.dropWhile fun c => c = ' ' || (tabs && c = '\t')
    let rest := if rest.head? = some '#' then rest.dropWhile (!isBreak ·) else rest
    match rest with
    | [] => s.seek rest
    | c :: cs =>
      if isBreak c then skipGap fuel { s.seek cs with keyAllowed := s.keyAllowed || !s.inFlow }
      else s.seek rest

/-! ### Single tokens -/

/-- The marker of a document. -/
def marker (t : Token) (s : Scan) : Option Scan := do
  let s ← (s.closeBlocks none).dropKey
  return { (s.push t).seek (s.cursor.rest.drop 3) with keyAllowed := false }

/-- A directive and the rest of its line. -/
def directive (s : Scan) : Option Scan := do
  let s ← (s.closeBlocks none).dropKey
  let (d, rest) ← Yaml.directive s.cursor.rest.tail
  return { (s.push (.directive d)).seek rest with keyAllowed := false }

/-- An opening brace. A mapping in braces is no key here. -/
def flowStart (s : Scan) : Option Scan :=
  if s.inFlow then none
  else some { (s.push .flowStart).seek s.cursor.rest.tail with
    inFlow := true
    keyAllowed := true
    key? := none }

/-- A closing brace. -/
def flowEnd (s : Scan) : Option Scan :=
  if s.inFlow then
    some { (s.push .flowEnd).seek s.cursor.rest.tail with
      inFlow := false
      keyAllowed := false
      key? := none }
  else none

/-- A comma between braces. -/
def flowEntry (s : Scan) : Option Scan :=
  if s.inFlow then
    some { (s.push .flowEntry).seek s.cursor.rest.tail with
      keyAllowed := true
      key? := none }
  else none

/-- A question mark: a key of any form follows. -/
def key (s : Scan) : Option Scan :=
  if !s.inFlow && !s.keyAllowed then none
  else do
    let s ← (s.openBlock s.cursor.column s.tokens.length).dropKey
    return { (s.push .key).seek s.cursor.rest.tail with keyAllowed := !s.inFlow }

/-- A colon: it makes the possible key a key, or it follows a key of any form. -/
def value (s : Scan) : Option Scan :=
  match s.key? with
  | some k =>
    let s := { s with tokens := s.tokens.insertIdx k.number .key }.openBlock k.column k.number
    some { (s.push .value).seek s.cursor.rest.tail with keyAllowed := false, key? := none }
  | none =>
    if s.inFlow then
      some { (s.push .value).seek s.cursor.rest.tail with keyAllowed := false }
    else if s.keyAllowed then
      let s := s.openBlock s.cursor.column s.tokens.length
      some { (s.push .value).seek s.cursor.rest.tail with keyAllowed := true }
    else none

/-- The name of an anchor or an alias. -/
def name (t : List Char → Token) (s : Scan) : Option Scan := do
  let s ← s.saveKey
  let cs := s.cursor.rest.tail
  let word := cs.takeWhile isWord
  let rest := cs.dropWhile isWord
  if word = [] then none
  else if atGap rest || rest.head?.any ("?:,]\x7d%@`".toList.contains ·) then
    return { (s.push (t word)).seek rest with keyAllowed := false }
  else none

/-- A tag. -/
def tag (s : Scan) : Option Scan := do
  let s ← s.saveKey
  let (t, rest) ← tagName s.cursor.rest
  if atGap rest || (s.inFlow && rest.head? = some ',') then
    return { (s.push (.tag t)).seek rest with keyAllowed := false }
  else none

/-- A scalar between quotes, whose text `read` takes from behind the opening one. -/
def quoted (read : List Char → Taken) (s : Scan) : Option Scan := do
  let s ← s.saveKey
  let (text, rest) ← read s.cursor.rest.tail
  return { (s.push (.scalar .quoted text)).seek rest with keyAllowed := false }

/-- A block scalar. -/
def block (folds : Bool) (s : Scan) : Option Scan := do
  let s ← s.dropKey
  let (text, rest) ← Yaml.block folds s.indents.head? s.cursor.rest.tail
  let style := if folds then .folded else .literal
  return { (s.push (.scalar style text)).seek rest with keyAllowed := true }

/-- A plain scalar. -/
def plain (s : Scan) : Option Scan := do
  let s ← s.saveKey
  let (text, rest, ended) ← Yaml.plain s.inFlow s.leastColumn s.cursor.rest
  return { (s.push (.scalar .plain text)).seek rest with keyAllowed := ended }

/-- The next token. -/
def next (s : Scan) : Option Scan :=
  match s.cursor.rest with
  | [] => none
  | c :: rest =>
    if s.cursor.column = 0 && c = '%' then s.directive
    else if s.cursor.column = 0 && isMarker (c :: rest) then
      s.marker (if c = '-' then .documentStart else .documentEnd)
    else match c with
      | '\x7b' => s.flowStart
      | '\x7d' => s.flowEnd
      | ',' => s.flowEntry
      | '-' => if atGap rest then none else s.plain
      | '?' => if s.inFlow || atGap rest then s.key else s.plain
      | ':' => if s.inFlow || atGap rest then s.value else s.plain
      | '*' => s.name .alias
      | '&' => s.name .anchor
      | '!' => s.tag
      | '\'' => s.quoted singleQuoted
      | '"' => s.quoted doubleQuoted
      | '|' => if s.inFlow then none else s.block false
      | '>' => if s.inFlow then none else s.block true
      | '[' | ']' | '#' | '%' | '@' | '`' => none
      | _ => if isSpace c then none else s.plain

/-- The tokens of what is left; each of them takes at least one character. -/
def all : Nat → Scan → Option (List Token)
  | 0, _ => none
  | fuel + 1, s => do
    let s ← (s.skipGap (s.cursor.rest.length + 1)).dropStaleKey
    if s.cursor.rest = [] then
      return (← (s.closeBlocks none).dropKey).tokens
    else all fuel (← (s.closeBlocks (some s.cursor.column)).next)

end Scan

/-- The tokens of a text. -/
def tokens? (text : List Char) : Option (List Token) :=
  if text.all isAllowed then (Scan.start text).all (text.length + 1) else none

end Groupwise.Yaml
