import Groupwise.Json.Numeral
import Groupwise.Json.Quoted

/-!
# Reading typed JSON values

Each reader expects one type and faults at the first character that does not fit. A value of
another type is a mismatch, but a string, number or word in its place is read to its end first, so
that its own fault comes to light.

Records are read from objects, whose members may come in any order and may be joined by unknown
ones, and also from arrays with the members in order. What was read so far is a state `σ`; a
`Field` knows whether the state has it and how to read it in.
-/

namespace Groupwise.Json.Reader

variable {α σ : Type}

/-! ### Scalars -/

/-- A value of another type than the one expected. -/
def wrongType : Reader α := do
  match ← peek with
  | none => fail .ended
  | some c =>
    if c = 'n' then literal "null".toList
    else if c = 't' then literal "true".toList
    else if c = 'f' then literal "false".toList
    else if c = '"' then
      advance
      discard quoted
    else if c = '-' ∨ c.isDigit then discard numeral
    else if c ≠ '[' ∧ c ≠ '{' then fail .malformed
    fail .mismatch

/-- A number. -/
def number : Reader Numeral := do
  match ← peek with
  | none => fail .ended
  | some c => if c = '-' ∨ c.isDigit then numeral else wrongType

/-- A natural number below `bound`. -/
def natural (bound : Nat) : Reader Nat := do
  match ← number with
  | .natural n => if n < bound then return n else fail .mismatch
  | _ => fail .mismatch

/-- A float; whole numbers count. -/
def float : Reader Float := Numeral.toFloat <$> number

/-- A string. -/
def string : Reader String := do
  match ← peek with
  | none => fail .ended
  | some c =>
    if c = '"' then
      advance
      quoted
    else wrongType

/-- A value or `null`. -/
def optional (r : Reader α) : Reader (Option α) := do
  if (← peek) == some 'n' then
    literal "null".toList
    return none
  else some <$> r

/-- A value made from a string, as far as the string allows. -/
def parsed (parse : String → Option α) : Reader α := do
  match parse (← string) with
  | some a => return a
  | none => fail .mismatch

/-- The colon behind the name of a member. -/
def colon : Reader Unit := do
  match ← peek with
  | some ':' => advance
  | some _ => fail .malformed
  | none => fail .ended

/-- A string made into a value, where nothing but a string may stand. -/
def name (parse : String → Option α) : Reader α := do
  match ← peek with
  | none => fail .ended
  | some '"' => parsed parse
  | some _ => fail .malformed

/-- One of several names, alone or as the only member of an object whose value is `null`. -/
def choice (parse : String → Option α) : Reader α := do
  if (← peek) == some '{' then
    advance
    let a ← name parse
    colon
    match ← peek with
    | none => fail .ended
    | some 'n' => literal "null".toList
    | some _ => wrongType
    match ← peek with
    | some '}' => advance
    | some _ => fail .malformed
    | none => fail .ended
    return a
  else name parse

/-! ### Values of no interest -/

/-- A word, a number or a string, whatever it says. -/
def passScalar (c : Char) : Reader Unit := do
  if c = 'n' then literal "null".toList
  else if c = 't' then literal "true".toList
  else if c = 'f' then literal "false".toList
  else if c = '"' then
    advance
    passQuoted
  else if c = '-' ∨ c.isDigit then passNumeral
  else fail .malformed

/-- The name of a member and its colon. -/
def passName : Reader Unit := do
  match ← peek with
  | some '"' =>
    advance
    passQuoted
    colon
  | some _ => fail .malformed
  | none => fail .ended

/-- Where a reader stands among nested values of no interest. -/
inductive Place
  /-- Before a value. -/
  | value
  /-- Behind a value. -/
  | behind
  /-- Behind an opening bracket. -/
  | opened

/-- Pass over what is left of nested values; the brackets still open are listed from the inside.
Each step takes at least one character, and `fuel` counts the steps. -/
def passNested (fuel : Nat) (place : Place) (brackets : List Char) : Reader Unit := do
  match fuel with
  | 0 => fail .ended
  | fuel + 1 =>
    match place, brackets with
    | .value, brackets =>
      match ← peek with
      | none => fail .ended
      | some c =>
        if c = '[' ∨ c = '{' then
          advance
          passNested fuel .opened (c :: brackets)
        else
          passScalar c
          passNested fuel .behind brackets
    | _, [] => return ()
    | place, b :: brackets =>
      let behind := match place with
        | .behind => true
        | _ => false
      match ← peek with
      | none => fail .ended
      | some c =>
        if c = (if b = '[' then ']' else '}') then
          advance
          passNested fuel .behind brackets
        else if behind && c ≠ ',' then fail .malformed
        else
          if behind then advance
          if b = '{' then passName
          passNested fuel .value (b :: brackets)

/-- Pass over a value of any type and depth. -/
def pass : Reader Unit := fun s => passNested (2 * s.length + 2) .value [] s

/-! ### Arrays -/

/-- Whether an array has a next element. -/
def hasElement (first : Bool) : Reader Bool := do
  match ← peek with
  | none => fail .ended
  | some c =>
    if c = ']' then return false
    else if first then return true
    else if c = ',' then
      advance
      match ← peek with
      | none => fail .ended
      | some c => if c = ']' then fail .malformed else return true
    else fail .malformed

/-- The end of an array. -/
def endArray : Reader Unit := do
  match ← peek with
  | some ']' => advance
  | some _ => fail .malformed
  | none => fail .ended

/-- The next `n` elements and the end of the array. -/
def elements (r : Reader α) : (n : Nat) → Bool → Reader { as : List α // as.length = n }
  | 0, _ => do
    endArray
    return ⟨[], rfl⟩
  | n + 1, first => do
    if ← hasElement first then
      let a ← r
      let ⟨as, h⟩ ← elements r n false
      return ⟨a :: as, congrArg Nat.succ h⟩
    else fail .mismatch

/-- An array of `n` elements. -/
def array (n : Nat) (r : Reader α) : Reader { as : List α // as.length = n } := do
  match ← peek with
  | some '[' =>
    advance
    elements r n true
  | _ => wrongType

/-! ### Records -/

/-- A member of a record that is read into the state `σ`. -/
structure Field (σ : Type) where
  name : String
  isSet : σ → Bool
  read : σ → Reader σ

/-- The members of a record from an array, in order. -/
def items : List (Field σ) → Bool → σ → Reader σ
  | [], _, s => do
    endArray
    return s
  | f :: fs, first, s => do
    if ← hasElement first then items fs false (← f.read s)
    else fail .mismatch

/-- Whether an object has a next member; its name is opened then. -/
def hasMember (first : Bool) : Reader Bool := do
  match ← peek with
  | none => fail .ended
  | some c =>
    if c = '}' then
      advance
      return false
    else if first then
      if c = '"' then
        advance
        return true
      else fail .malformed
    else if c = ',' then
      advance
      match ← peek with
      | none => fail .ended
      | some c =>
        if c = '"' then
          advance
          return true
        else fail .malformed
    else fail .malformed

/-- The member of the given name: read in if it is known and new, passed over if it is unknown. -/
def member (fields : List (Field σ)) (name : String) (s : σ) : Reader σ := do
  match fields.find? (·.name == name) with
  | none =>
    colon
    pass
    return s
  | some f =>
    if f.isSet s then fail .mismatch
    else
      colon
      f.read s

/-- The members of an object. Each takes at least one character, and `fuel` counts them. -/
def members (fields : List (Field σ)) : Nat → Bool → σ → Reader σ
  | 0, _, _ => fail .ended
  | fuel + 1, first, s => do
    if ← hasMember first then
      let name ← quoted
      members fields fuel false (← member fields name s)
    else return s

/-- A record with the given members; `finish` says what the members read in amount to. -/
def record (fields : List (Field σ)) (init : σ) (finish : σ → Option α) : Reader α := do
  let s ← match ← peek with
    | some '[' => do
      advance
      items fields true init
    | some '{' => do
      advance
      members fields ((← get).length + 1) true init
    | _ => wrongType
  match finish s with
  | some a => return a
  | none => fail .mismatch

end Groupwise.Json.Reader
