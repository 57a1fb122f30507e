import Groupwise.Yaml.Scalar

/-!
# Tags and directives in YAML texts

A tag says of which type a node is. Most tags are shorthands: a handle, which directives in front
of the document define, and a suffix.
-/

namespace Groupwise.Yaml

/-- A tag as it is written. The handle is empty if the suffix is all of the tag. -/
structure TagName where
  handle : List Char
  suffix : TagBytes
deriving DecidableEq, Repr

/-- A directive in front of a document. -/
inductive Directive
  | version (major minor : Nat)
  | tag (handle : List Char) (uri : TagBytes)
deriving DecidableEq, Repr

/-! ### Tags -/

def isUriChar (verbatim : Bool) (c : Char) : Bool :=
  isWord c || ";/?:@&=+$.!~*'()".toList.contains c || (verbatim && ",[]".toList.contains c)

/-- The byte of an escape in a tag. -/
def uriByte? : List Char → Option Nat
  | '%' :: c :: d :: _ => do return 16 * (← Hex.value? c) + (← Hex.value? d)
  | _ => none

/-- How many bytes a character has that begins with this byte. -/
def uriWidth? (b : Nat) : Option Nat :=
  if b < 0x80 then some 1
  else if b / 0x20 = 0x6 then some 2
  else if b / 0x10 = 0xE then some 3
  else if b / 0x08 = 0x1E then some 4
  else none

/-- The bytes of the escapes at the front of a text that stand for one character. Whether shorter
ones would do for it does not matter. -/
def uriEscape? (cs : List Char) : Option (List Nat) := do
  let width ← uriWidth? (← uriByte? cs)
  let bytes ← (List.range width).mapM fun i => uriByte? (cs.drop (3 * i))
  if bytes.tail.all (· / 0x40 = 0x2) then return bytes else none

/-- The part of a tag at the front of a text, and what follows it. -/
def uri (verbatim : Bool) : List Char → Option (TagBytes × List Char)
  | [] => some ([], [])
  | c :: cs =>
    if c = '%' then
      match uriEscape? (c :: cs) with
      | none => none
      | some bytes =>
        (uri verbatim (cs.drop (3 * bytes.length - 1))).map
          fun (tag, rest) => (bytes.map UInt8.ofNat ++ tag, rest)
    else if isUriChar verbatim c then
      (uri verbatim cs).map fun (tag, rest) => (c.toUInt8 :: tag, rest)
    else some ([], c :: cs)
termination_by cs => cs.length
decreasing_by
  · simp only [List.length_drop, List.length_cons]
    omega
  · exact Nat.lt_succ_self _

/-- A tag ends before its first zero byte. -/
def cut (tag : TagBytes) : TagBytes := tag.takeWhile (· ≠ 0)

/-- The tag that is nothing but its mark. -/
def bareTag : TagBytes := ['!'.toUInt8]

/-- A handle, or the part of one that a tag without a handle begins with. -/
def tagHandle : List Char → Taken
  | '!' :: cs =>
    let word := cs.takeWhile isWord
    match cs.dropWhile isWord with
    | '!' :: rest => some ('!' :: word ++ ['!'], rest)
    | rest => some ('!' :: word, rest)
  | _ => none

/-- What was read is a handle. -/
def isHandle (handle : List Char) : Bool := 2 ≤ handle.length && handle.getLast? = some '!'

/-- A tag. -/
def tagName : List Char → Option (TagName × List Char)
  | '!' :: '<' :: cs => do
    let (name, rest) ← uri true cs
    match name, rest with
    | _ :: _, '>' :: rest => return (⟨[], cut name⟩, rest)
    | _, _ => none
  | cs => do
    let (handle, rest) ← tagHandle cs
    let (suffix, rest) ← uri false rest
    if isHandle handle then
      if suffix = [] then none else return (⟨handle, cut suffix⟩, rest)
    else
      match cut (handle.tail.map Char.toUInt8 ++ suffix) with
      | [] => return (⟨[], bareTag⟩, rest)
      | suffix => return (⟨['!'], suffix⟩, rest)

/-! ### Directives -/

/-- A number of at most nine digits. -/
def versionNumber (cs : List Char) : Option (Nat × List Char) :=
  let digits := cs.takeWhile Char.isDigit
  if digits = [] ∨ 9 < digits.length then none
  else some (digits.foldl (fun n c => 10 * n + (c.toNat - '0'.toNat)) 0, cs.dropWhile Char.isDigit)

/-- The version that a directive asks for. -/
def versionDirective (cs : List Char) : Option (Directive × List Char) := do
  let (major, rest) ← versionNumber cs
  match rest with
  | '.' :: rest =>
    let (minor, rest) ← versionNumber rest
    return (.version major minor, rest)
  | _ => none

/-- The handle that a directive defines. -/
def tagDirective (cs : List Char) : Option (Directive × List Char) := do
  let (handle, rest) ← tagHandle cs
  if handle ≠ ['!'] ∧ !isHandle handle then none
  else if !rest.head?.any isBlank then none
  else
    let (name, rest) ← uri true (rest.dropWhile isBlank)
    if name = [] ∨ !atGap rest then none else return (.tag handle (cut name), rest)

/-- What follows a line that has nothing but a comment left. -/
def nextLine (cs : List Char) : Option (List Char) :=
  let rest := cs.dropWhile isBlank
  let rest := if rest.head? = some '#' then rest.dropWhile (!isBreak ·) else rest
  match rest with
  | [] => some []
  | '\r' :: '\n' :: rest => some rest
  | c :: rest => if isBreak c then some rest else none

/-- A directive behind its first character, and what follows its line. -/
def directive (cs : List Char) : Option (Directive × List Char) := do
  let rest := cs.dropWhile isWord
  if !atGap rest then none
  else
    let name := String.ofList (cs.takeWhile isWord)
    let rest := rest.dropWhile isBlank
    let (d, rest) ←
      if name = "YAML" then versionDirective rest
      else if name = "TAG" then tagDirective rest
      else none
    return (d, ← nextLine rest)

/-! ### What tags mean -/

/-- The tags that YAML itself has. -/
def coreTag (name : String) : TagBytes := ("tag:yaml.org,2002:" ++ name).toList.map Char.toUInt8

namespace Directive

def version? : Directive → Option (Nat × Nat)
  | version major minor => some (major, minor)
  | tag _ _ => none

def handle? : Directive → Option (List Char)
  | version _ _ => none
  | tag handle _ => some handle

/-- What a directive makes a handle stand for. -/
def uri? (handle : List Char) : Directive → Option TagBytes
  | version _ _ => none
  | tag h uri => if h = handle then some uri else none

end Directive

/-- Directives that can stand together: at most one version, which is known, and no handle
twice. -/
def compatible (ds : List Directive) : Bool :=
  let versions := ds.filterMap Directive.version?
  versions.length ≤ 1 && versions.all (fun v => v.1 = 1 && (v.2 = 1 || v.2 = 2)) &&
    decide (ds.filterMap Directive.handle?).Nodup

/-- What a handle stands for. -/
def handleUri? (ds : List Directive) (handle : List Char) : Option TagBytes :=
  (ds.findSome? (Directive.uri? handle)).or
    (if handle = ['!'] then some bareTag else if handle = ['!', '!'] then some (coreTag "")
    else none)

/-- The tag that is meant. -/
def TagName.resolve? (ds : List Directive) (t : TagName) : Option TagBytes :=
  if t.handle = [] then some t.suffix else (handleUri? ds t.handle).map (· ++ t.suffix)

end Groupwise.Yaml
