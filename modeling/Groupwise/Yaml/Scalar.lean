import Groupwise.Text.Digits
import Groupwise.Yaml.Text

/-!
# Scalars in YAML texts

A scalar is written plainly, between quotes, or as an indented block behind a header. Each reader
takes one scalar off the front of a text. Plain scalars that go over several lines have white space
in them; none of the values read here has, so such a scalar is refused.
-/

namespace Groupwise.Yaml

inductive ScalarStyle
  | plain
  | quoted
  | literal
  | folded
deriving DecidableEq, Repr

/-- The bytes of a tag. Escapes stand for single bytes, so a tag may be no text. -/
abbrev TagBytes := List UInt8

/-- A scalar and the tag it carries. -/
structure Scalar where
  tag : Option TagBytes
  style : ScalarStyle
  text : List Char
deriving DecidableEq, Repr

/-- The scalar where there is none. -/
def Scalar.empty : Scalar := ⟨none, .plain, []⟩

/-- What was read and what is left. -/
abbrev Taken := Option (List Char × List Char)

/-- More characters in front of what is read. -/
def Taken.push (cs : List Char) (t : Taken) : Taken := t.map fun (s, rest) => (cs ++ s, rest)

/-! ### Quoted scalars -/

/-- The character of a one-letter escape. -/
def shortEscape (c : Char) : Option Char :=
  match c with
  | '0' => some '\x00'
  | 'a' => some '\x07'
  | 'b' => some '\x08'
  | 't' | '\t' => some '\t'
  | 'n' => some '\n'
  | 'v' => some '\x0b'
  | 'f' => some '\x0c'
  | 'r' => some '\r'
  | 'e' => some '\x1b'
  | ' ' | '"' | '/' | '\\' => some c
  | 'N' => some '\x85'
  | '_' => some '\xa0'
  | 'L' => some '\u2028'
  | 'P' => some '\u2029'
  | _ => none

/-- The number of digits behind the letter of a numeric escape. -/
def escapeDigits (c : Char) : Option Nat :=
  match c with
  | 'x' => some 2
  | 'u' => some 4
  | 'U' => some 8
  | _ => none

/-- The number of `n` hexadecimal digits at the front of a text. -/
def hexNumber? (n : Nat) (cs : List Char) : Option Nat :=
  if cs.length < n then none
  else (cs.take n).foldlM (fun k c => return 16 * k + (← Hex.value? c)) 0

/-- The character of an escape, and how many characters it takes behind the letter `c`. -/
def escape? (c : Char) (cs : List Char) : Option (Char × Nat) :=
  match shortEscape c with
  | some d => some (d, 0)
  | none => do
    let n ← escapeDigits c
    let code ← hexNumber? n cs
    if code.isValidChar then return (Char.ofNat code, n) else none

/-- What the run of white space stands for that begins with `c`, and what follows it, unless that
is the marker of a document. -/
def run? (c : Char) (cs : List Char) : Option (List Char × List Char) :=
  let run := c :: cs.takeWhile isSpace
  let rest := cs.dropWhile isSpace
  if lastLine run = [] && isMarker rest then none else some (run, rest)

theorem length_of_run? {c : Char} {cs run rest : List Char} (h : run? c cs = some (run, rest)) :
    rest.length ≤ cs.length := by
  simp only [run?] at h
  split at h
  · cases h
  · cases h
    exact length_dropWhile_le isSpace cs

/-- The rest of a scalar between single quotes. -/
def singleQuoted : List Char → Taken
  | [] => none
  | '\'' :: '\'' :: cs => (singleQuoted cs).push ['\'']
  | '\'' :: cs => some ([], cs)
  | c :: cs =>
    if isSpace c then
      match _h : run? c cs with
      | none => none
      | some (run, rest) => (singleQuoted rest).push (foldRun run)
    else (singleQuoted cs).push [c]
termination_by cs => cs.length
decreasing_by
  all_goals simp only [List.length_cons]
  · omega
  · have := length_of_run? _h
    omega
  · omega

/-- The rest of a scalar between double quotes. -/
def doubleQuoted : List Char → Taken
  | [] => none
  | '"' :: cs => some ([], cs)
  | ['\\'] => none
  | '\\' :: c :: cs =>
    if isBreak c then
      match _h : run? c cs with
      | none => none
      | some (run, rest) => (doubleQuoted rest).push (breaks run).tail
    else
      match escape? c cs with
      | none => none
      | some (d, n) => (doubleQuoted (cs.drop n)).push [d]
  | c :: cs =>
    if isSpace c then
      match _h : run? c cs with
      | none => none
      | some (run, rest) => (doubleQuoted rest).push (foldRun run)
    else (doubleQuoted cs).push [c]
termination_by cs => cs.length
decreasing_by
  all_goals simp only [List.length_cons]
  · have := length_of_run? _h
    omega
  · simp only [List.length_drop]
    omega
  · have := length_of_run? _h
    omega
  · omega

/-! ### Plain scalars -/

/-- What separates the entries of a collection between brackets. -/
def isFlowIndicator (c : Char) : Bool := [',', '[', ']', '\x7b', '\x7d'].contains c

/-- What a plain scalar has on the line, and what follows it. Behind white space a comment may
begin. Between braces, a scalar ends at indicators as well, and a colon may not stand before
one. -/
def plainLine (inFlow gap : Bool) : List Char → Taken
  | [] => some ([], [])
  | c :: cs =>
    if isBreak c || (gap && c = '#') then some ([], c :: cs)
    else if isBlank c then
      match plainLine inFlow true cs with
      | some ([], _) => some ([], c :: cs)
      | taken => taken.push [c]
    else if inFlow && c = ':' && cs.head?.any (fun d => isFlowIndicator d || d = '?') then none
    else if (c = ':' && atGap cs) || (inFlow && isFlowIndicator c) then some ([], c :: cs)
    else (plainLine inFlow false cs).push [c]

/-- A tab stands where a line of a run of white space should be indented. -/
def misplacedTab (indent : Nat) (run : List Char) : Bool :=
  (run.splitOnP isBreak).tail.any fun line => (line.take indent).contains '\t'

/-- A plain scalar, what follows the white space behind it, and whether that goes over the end of
the line. The lines of a scalar are indented by `indent`, those between braces excepted. -/
def plain (inFlow : Bool) (indent : Nat) (cs : List Char) :
    Option (List Char × List Char × Bool) := do
  let (text, more) ← plainLine inFlow false cs
  let run := more.takeWhile isSpace
  let rest := more.dropWhile isSpace
  let column := (lastLine run).length
  if !run.any isBreak then return (text, rest, false)
  else if misplacedTab indent run then none
  else if (column = 0 && isMarker rest) || (!inFlow && column < indent) then
    return (text, rest, true)
  else
    match plainLine inFlow true rest with
    | some ([], _) => return (text, rest, true)
    | _ => none

/-! ### Block scalars -/

/-- A line and the line break that ends it. -/
structure Line where
  content : List Char
  ending : List Char

namespace Line

/-- One more character in front of the first line. -/
def push (c : Char) : List Line → List Line
  | [] => [⟨[c], []⟩]
  | l :: ls => { l with content := c :: l.content } :: ls

/-- The lines of a text. -/
def split : List Char → List Line
  | [] => []
  | '\r' :: '\n' :: cs => ⟨[], ['\r', '\n']⟩ :: split cs
  | c :: cs => if isBreak c then ⟨[], [c]⟩ :: split cs else push c (split cs)

/-- The text of lines. -/
def join (ls : List Line) : List Char := ls.flatMap fun l => l.content ++ l.ending

/-- The number of spaces at the front. -/
def spaces (l : Line) : Nat := (l.content.takeWhile (· = ' ')).length

/-- The line without up to `indent` spaces at its front. -/
def unindent (indent : Nat) (l : Line) : Line :=
  { l with content := l.content.drop (min indent l.spaces) }

/-- The line is nothing but a line break. -/
def isEmpty (l : Line) : Bool := l.content = [] && l.ending ≠ []

end Line

/-- What becomes of the line breaks at the end of a block. -/
inductive Chomping
  | strip
  | clip
  | keep
deriving DecidableEq, Repr

def Chomping.ofSign? (c : Char) : Option Chomping :=
  if c = '-' then some .strip else if c = '+' then some .keep else none

def blockDigit? (c : Char) : Option Nat :=
  if '1' ≤ c ∧ c ≤ '9' then some (c.toNat - '0'.toNat) else none

/-- The header of a block: a sign and a digit in any order, either of which may be missing. -/
def blockHeader : List Char → Chomping × Option Nat × List Char
  | [] => (.clip, none, [])
  | c :: cs =>
    match Chomping.ofSign? c, blockDigit? c with
    | some chomping, _ =>
      match cs.head?.bind blockDigit? with
      | some n => (chomping, some n, cs.tail)
      | none => (chomping, none, cs)
    | _, some n =>
      match cs.head?.bind Chomping.ofSign? with
      | some chomping => (chomping, some n, cs.tail)
      | none => (.clip, some n, cs)
    | none, none => (.clip, none, c :: cs)

/-- The line breaks of the empty lines in front, and the other lines, the first of them without its
indentation. A tab may not stand in for part of it. -/
def emptyLines (indent : Nat) : List Line → Option (List Char × List Line)
  | [] => some ([], [])
  | l :: ls =>
    let line := l.unindent indent
    if line.isEmpty then (emptyLines indent ls).map fun (bs, rest) => (breaks l.ending ++ bs, rest)
    else if l.spaces < indent && line.content.head? = some '\t' then none
    else some ([], l :: ls)

theorem length_of_emptyLines {indent : Nat} {ls rest : List Line} {bs : List Char}
    (h : emptyLines indent ls = some (bs, rest)) : rest.length ≤ ls.length := by
  induction ls generalizing bs with
  | nil =>
    cases h
    exact Nat.le_refl 0
  | cons l ls ih =>
    simp only [emptyLines] at h
    split at h
    · obtain ⟨⟨bs', rest'⟩, h', he⟩ := Option.map_eq_some_iff.1 h
      cases he
      exact Nat.le_succ_of_le (ih h')
    · split at h
      · cases h
      · cases h
        exact Nat.le_refl _

/-- The indentation of a block that does not tell it: that of its first line with anything in it,
if no empty line before it is longer. -/
def blockIndent (least : Nat) : List Line → Option Nat
  | [] => some least
  | l :: ls =>
    let line := l.unindent l.spaces
    if line.isEmpty then blockIndent (max least l.spaces) ls
    else if line.content.head? = some '\t' then none
    else some (max least l.spaces)

/-- The text of the lines of a block, the line break behind it, those of the empty lines behind it,
and the lines that do not belong to it. In a folded block a line break between two lines that do
not begin with a blank is a space. -/
def blockLines (folds : Bool) (indent : Nat) (leading : List Char) (afterBlank : Bool)
    (empty : List Char) : List Line → Option (List Char × List Char × List Char × List Line)
  | [] => some ([], leading, empty, [])
  | l :: ls =>
    let line := l.unindent indent
    if l.spaces < indent || line.content = [] then some ([], leading, empty, line :: ls)
    else
      let blank := line.content.head?.any isBlank
      let joint :=
        if folds && leading.head? = some '\n' && !afterBlank && !blank then
          if empty = [] then [' '] else []
        else leading
      match _h : emptyLines indent ls with
      | none => none
      | some (more, rest) =>
        (blockLines folds indent (breaks l.ending) blank more rest).map
          fun (text, tail) => (joint ++ empty ++ line.content ++ text, tail)
termination_by ls => ls.length
decreasing_by exact Nat.lt_succ_of_le (length_of_emptyLines _h)

/-- A block scalar behind its first character, in a block of the given indentation. -/
def block (folds : Bool) (indent : Option Nat) (cs : List Char) : Taken := do
  let (chomping, digit, more) := blockHeader cs
  let more := more.dropWhile isBlank
  let more := if more.head? = some '#' then more.dropWhile (!isBreak ·) else more
  if !more.head?.all isBreak then none
  else
    let lines := (Line.split more).tail
    let least := match indent with
      | none => 0
      | some i => i + 1
    let own ← match digit with
      | some n => pure (indent.getD 0 + n)
      | none => blockIndent (max least 1) lines
    let (empty, rest) ← emptyLines own lines
    let (text, leading, empty, rest) ← blockLines folds own [] false empty rest
    let tail := match chomping with
      | .strip => []
      | .clip => leading
      | .keep => leading ++ empty
    return (text ++ tail, Line.join rest)

end Groupwise.Yaml
