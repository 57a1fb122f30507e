import Groupwise.Yaml.Token

/-!
# Flat mappings in YAML texts

A text with a single document, which is a mapping of scalars to scalars or nothing at all. Scalars
may be anchored and stand in again for an alias. Every other text is refused, whatever is wrong
with it.
-/

namespace Groupwise.Yaml

/-- A key or a value before aliases are looked up. -/
inductive Node
  | alias (name : List Char)
  | scalar (anchor : Option (List Char)) (s : Scalar)

/-- The node where there is none. -/
def Node.empty : Node := .scalar none .empty

/-! ### Nodes -/

/-- The anchor and the tag of a node, in either order. -/
def properties : List Token → Option (List Char) × Option TagName × List Token
  | .anchor a :: .tag t :: rest => (some a, some t, rest)
  | .tag t :: .anchor a :: rest => (some a, some t, rest)
  | .anchor a :: rest => (some a, none, rest)
  | .tag t :: rest => (none, some t, rest)
  | rest => (none, none, rest)

/-- The tag that a node carries. -/
def nodeTag (ds : List Directive) : Option TagName → Option (Option TagBytes)
  | none => some none
  | some t => (t.resolve? ds).map some

/-- A node; one with properties may have no text. -/
def node (ds : List Directive) (ts : List Token) : Option (Node × List Token) :=
  match ts with
  | .alias a :: rest => some (.alias a, rest)
  | ts => do
    let (anchor, name, rest) := properties ts
    let tag ← nodeTag ds name
    match rest with
    | .scalar style text :: rest => return (.scalar anchor ⟨tag, style, text⟩, rest)
    | .blockStart :: _ => none
    | .flowStart :: _ => none
    | rest =>
      if anchor.isSome ∨ tag.isSome then return (.scalar anchor { Scalar.empty with tag }, rest)
      else none

/-- A node, or none before a token that ends it. -/
def nodeBefore (ds : List Directive) (ends : List Token) (ts : List Token) :
    Option (Node × List Token) :=
  if ts.head?.any (ends.contains ·) then some (.empty, ts) else node ds ts

/-! ### Entries -/

/-- The value of an entry, which is empty without a colon. -/
def entryValue (ds : List Directive) (ends : List Token) :
    List Token → Option (Node × List Token)
  | .value :: ts => nodeBefore ds ends ts
  | ts => some (.empty, ts)

def blockEnds : List Token := [.key, .value, .blockEnd]

def flowEnds : List Token := [.flowEntry, .flowEnd]

/-- The entries up to the end of a block; `fuel` bounds their number. -/
def blockEntries (ds : List Directive) :
    Nat → List Token → Option (List (Node × Node) × List Token)
  | _, .blockEnd :: ts => some ([], ts)
  | fuel + 1, .key :: ts => do
    let (k, ts) ← nodeBefore ds blockEnds ts
    let (v, ts) ← entryValue ds blockEnds ts
    let (es, ts) ← blockEntries ds fuel ts
    return ((k, v) :: es, ts)
  | _, _ => none

/-- An entry between braces. One without a colon is a key alone. -/
def flowEntry (ds : List Directive) : List Token → Option ((Node × Node) × List Token)
  | .key :: ts => do
    let (k, ts) ← nodeBefore ds (.value :: flowEnds) ts
    let (v, ts) ← entryValue ds flowEnds ts
    return ((k, v), ts)
  | ts => do
    let (k, ts) ← node ds ts
    return ((k, .empty), ts)

/-- The entries up to a closing brace; `fuel` bounds their number. -/
def flowEntries (ds : List Directive) :
    Nat → List Token → Option (List (Node × Node) × List Token)
  | _, .flowEnd :: ts => some ([], ts)
  | 0, _ => none
  | fuel + 1, ts => do
    let (e, ts) ← flowEntry ds ts
    match ts with
    | .flowEntry :: ts =>
      let (es, ts) ← flowEntries ds fuel ts
      return (e :: es, ts)
    | .flowEnd :: ts => return ([e], ts)
    | _ => none

/-! ### Documents -/

/-- The anchor of the mapping of a document, and its entries. -/
def root (ds : List Directive) (ts : List Token) :
    Option ((Option (List Char) × List (Node × Node)) × List Token) := do
  let (anchor, name, rest) := properties ts
  let tag ← nodeTag ds name
  match rest with
  | .blockStart :: rest =>
    let (es, rest) ← blockEntries ds rest.length rest
    return ((anchor, es), rest)
  | .flowStart :: rest =>
    let (es, rest) ← flowEntries ds rest.length rest
    return ((anchor, es), rest)
  | .scalar _ _ :: _ => none
  | rest => if anchor.isSome ∨ tag.isSome then return ((anchor, []), rest) else none

def Token.directive? : Token → Option Directive
  | .directive d => some d
  | _ => none

/-- A document behind its directives; without a marker in front it has none of them. -/
def document (ds : List Directive) :
    List Token → Option ((Option (List Char) × List (Node × Node)) × List Token)
  | .documentStart :: ts =>
    match ts with
    | [] | .documentStart :: _ | .documentEnd :: _ | .directive _ :: _ => some ((none, []), ts)
    | ts => root ds ts
  | [] => if ds = [] then some ((none, []), []) else none
  | ts => if ds = [] then root ds ts else none

/-! ### Aliases -/

/-- The anchors of a document up to some place. -/
structure Anchors where
  /-- The names and their numbers. -/
  numbers : List (List Char × Nat)
  /-- What the numbers stand for, the latest first; it may be no scalar. -/
  targets : List (Nat × Option Scalar)

namespace Anchors

def empty : Anchors := ⟨[], []⟩

/-- One more anchor. Its number is that of the names before it, so a name that comes again may get
the number that the next new name gets as well. -/
def add (name : List Char) (target : Option Scalar) (a : Anchors) : Anchors :=
  let number := a.numbers.length
  { numbers := (name, number) :: a.numbers.filter (·.1 ≠ name)
    targets := (number, target) :: a.targets }

/-- The scalar that a number stands for at last. -/
def scalar? (a : Anchors) (number : Nat) : Option Scalar := (a.targets.lookup number).join

end Anchors

/-- A scalar, or the number of the anchor whose scalar it is. -/
abbrev Reference := Nat ⊕ Scalar

/-- What a node refers to, and the anchors behind it. The name in an alias is one before it. -/
def Node.reference? (anchors : Anchors) : Node → Option (Reference × Anchors)
  | .alias name => do return (.inl (← anchors.numbers.lookup name), anchors)
  | .scalar none s => some (.inr s, anchors)
  | .scalar (some name) s => some (.inr s, anchors.add name s)

/-- What the nodes of entries refer to, and the anchors of the document. -/
def references? (anchors : Anchors) :
    List (Node × Node) → Option (List (Reference × Reference) × Anchors)
  | [] => some ([], anchors)
  | (k, v) :: es => do
    let (k, anchors) ← k.reference? anchors
    let (v, anchors) ← v.reference? anchors
    let (rs, anchors) ← references? anchors es
    return ((k, v) :: rs, anchors)

/-- The scalar that is referred to, which may stand further down in the document. -/
def Reference.scalar? (anchors : Anchors) : Reference → Option Scalar
  | .inl number => anchors.scalar? number
  | .inr s => some s

/-- The scalars of the entries of a mapping, which may have an anchor itself. -/
def resolve? (anchor : Option (List Char)) (es : List (Node × Node)) :
    Option (List (Scalar × Scalar)) := do
  let anchors := anchor.elim .empty (Anchors.empty.add · none)
  let (rs, anchors) ← references? anchors es
  rs.mapM fun (k, v) => do
    return (← Reference.scalar? anchors k, ← Reference.scalar? anchors v)

/-- The entries of the mapping that a text is. -/
def mapping? (text : String) : Option (List (Scalar × Scalar)) := do
  let ts ← tokens? text.toList
  let ds := ts.filterMap Token.directive?
  if !compatible ds then none
  else
    let ((anchor, es), rest) ← document ds (ts.dropWhile fun t => t.directive?.isSome)
    if rest.all (· = .documentEnd) then resolve? anchor es else none

end Groupwise.Yaml
