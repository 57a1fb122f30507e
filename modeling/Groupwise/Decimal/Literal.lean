import Groupwise.Decimal
import Groupwise.Text.Digits

/-!
# Reading numbers from text

Natural numbers are read in a given base with a bound, and every way to fail is told apart, since
the failures are reported in different words. Floats are read from decimal literals of any length
and rounded correctly.
-/

namespace Groupwise.Literal

/-- Why a text is no natural number within bounds. -/
inductive NatFault
  | empty
  | invalidDigit
  | tooLarge
deriving DecidableEq, Repr

def NatFault.message : NatFault → String
  | .empty => "cannot parse integer from empty string"
  | .invalidDigit => "invalid digit found in string"
  | .tooLarge => "number too large to fit in target type"

/-- The value of a digit in base `base`, at most sixteen. -/
def digitIn (base : Nat) (c : Char) : Option Nat :=
  (Hex.value? c).filter (· < base)

/-- Digits read behind a number that was read already; the first fault from the left counts. -/
def natAfter (base bound : Nat) (n : Nat) : List Char → Except NatFault Nat
  | [] => .ok n
  | c :: cs =>
    match digitIn base c with
    | none => .error .invalidDigit
    | some d => if base * n + d < bound then natAfter base bound (base * n + d) cs
      else .error .tooLarge

/-- Digits in base `base`, an optional plus sign before them, for a number below `bound`. -/
def nat (base bound : Nat) (s : List Char) : Except NatFault Nat :=
  match s with
  | [] => .error .empty
  | ['+'] => .error .invalidDigit
  | '+' :: cs => natAfter base bound 0 cs
  | cs => natAfter base bound 0 cs

/-- A decimal number below `bound`, or nothing. -/
def nat? (bound : Nat) (s : String) : Option Nat := (nat 10 bound s.toList).toOption

/-- Why a text is no float. -/
inductive FloatFault
  | empty
  | invalid
deriving DecidableEq, Repr

def FloatFault.message : FloatFault → String
  | .empty => "cannot parse float from empty string"
  | .invalid => "invalid float literal"

/-- The value of a run of decimal digits. -/
def digitsValue (cs : List Char) : Nat :=
  cs.foldl (fun n c => 10 * n + (c.toNat - '0'.toNat)) 0

/-- An exponent: a mark, an optional sign and at least one digit, or nothing at all. -/
def exponent? : List Char → Option Int
  | [] => some 0
  | c :: cs =>
    if c = 'e' ∨ c = 'E' then
      let (negative, ds) := match cs with
        | '-' :: ds => (true, ds)
        | '+' :: ds => (false, ds)
        | ds => (false, ds)
      if ds ≠ [] ∧ ds.all Char.isDigit then
        some (if negative then -(digitsValue ds : Int) else digitsValue ds)
      else none
    else none

/-- An unsigned decimal literal: digits with at most one point among them, an exponent behind. -/
def decimal? (cs : List Char) : Option Decimal :=
  let whole := cs.takeWhile Char.isDigit
  let (fraction, rest) := match cs.dropWhile Char.isDigit with
    | '.' :: r => (r.takeWhile Char.isDigit, r.dropWhile Char.isDigit)
    | r => ([], r)
  if whole = [] ∧ fraction = [] then none
  else (exponent? rest).map fun e => ⟨digitsValue (whole ++ fraction), e - fraction.length⟩

/-- An unsigned float: a decimal literal or one of the names of infinity and not-a-number, in any
case. -/
def magnitude? (cs : List Char) : Option Float :=
  let name := cs.map Char.toLower
  if name = ['i', 'n', 'f'] ∨ name = ['i', 'n', 'f', 'i', 'n', 'i', 't', 'y'] then
    some (1.0 / 0.0)
  else if name = ['n', 'a', 'n'] then some (0.0 / 0.0)
  else (decimal? cs).map Decimal.toFloat

/-- A float with an optional sign. -/
def float (s : List Char) : Except FloatFault Float :=
  match s with
  | [] => .error .empty
  | '-' :: cs => match magnitude? cs with
    | some x => .ok (-x)
    | none => .error .invalid
  | '+' :: cs => match magnitude? cs with
    | some x => .ok x
    | none => .error .invalid
  | cs => match magnitude? cs with
    | some x => .ok x
    | none => .error .invalid

/-- A float, or nothing. -/
def float? (s : String) : Option Float := (float s.toList).toOption

end Groupwise.Literal
