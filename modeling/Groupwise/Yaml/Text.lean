/-!
# Characters of YAML texts

White space within lines, line breaks, and the markers of documents at the front of lines.
-/

namespace Groupwise.Yaml

def isBlank (c : Char) : Bool := c = ' ' ∨ c = '\t'

def isBreak (c : Char) : Bool :=
  c = '\n' ∨ c = '\r' ∨ c = '\x85' ∨ c = '\u2028' ∨ c = '\u2029'

def isSpace (c : Char) : Bool := isBlank c || isBreak c

/-- The characters of names. -/
def isWord (c : Char) : Bool := c.isAlphanum || c = '_' || c = '-'

/-- The characters a text may have at all. -/
def isAllowed (c : Char) : Bool :=
  let n := c.toNat
  n = 0x09 || n = 0x0A || n = 0x0D || (0x20 ≤ n && n ≤ 0x7E) || n = 0x85 ||
    (0xA0 ≤ n && n ≤ 0xFFFD) || 0x10000 ≤ n

/-- No word goes on here. -/
def atGap : List Char → Bool
  | [] => true
  | c :: _ => isSpace c

/-- The marker of a document stands here, if this is the front of a line. -/
def isMarker : List Char → Bool
  | '-' :: '-' :: '-' :: rest => atGap rest
  | '.' :: '.' :: '.' :: rest => atGap rest
  | _ => false

/-- The line breaks of a run of white space. All but two kinds of them are one and the same. -/
def breaks : List Char → List Char
  | [] => []
  | '\r' :: '\n' :: cs => '\n' :: breaks cs
  | c :: cs =>
    if c = '\u2028' ∨ c = '\u2029' then c :: breaks cs
    else if isBreak c then '\n' :: breaks cs
    else breaks cs

/-- What a run of white space within a text stands for: a single line break is a space, of several
the first is dropped. -/
def foldRun (run : List Char) : List Char :=
  match breaks run with
  | [] => run
  | ['\n'] => [' ']
  | '\n' :: more => more
  | more => more

/-- The part of a text behind its last line break. -/
def lastLine (run : List Char) : List Char := (run.reverse.takeWhile fun c => !isBreak c).reverse

theorem length_dropWhile_le {α : Type} (p : α → Bool) (l : List α) :
    (l.dropWhile p).length ≤ l.length := (List.dropWhile_sublist p).length_le

end Groupwise.Yaml
