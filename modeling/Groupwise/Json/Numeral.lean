import Groupwise.Decimal
import Groupwise.Json.Fault
import Groupwise.Word

/-!
# Numbers in JSON texts

A whole number below `2 ^ 64` is read exactly. Any other number becomes a float: its leading digits,
as many as 64 bits hold, are scaled by one power of ten. A number too large for a float is no
number of the format.
-/

namespace Groupwise.Json

/-- A number as it is read. -/
inductive Numeral
  | natural (n : Nat)
  | negative (n : Nat)
  | float (x : Float)
deriving Repr

namespace Numeral

def toFloat : Numeral → Float
  | .natural n => n.toFloat
  | .negative n => -n.toFloat
  | .float x => x

end Numeral

/-- The bound of the leading digits. -/
def significandBound : Nat := wordBound

/-- Append digits to a significand as long as it stays in bounds; also the number of digits left
over. -/
def extend (n : Nat) : List Char → Nat × Nat
  | [] => (n, 0)
  | c :: cs =>
    let m := 10 * n + (c.toNat - '0'.toNat)
    if m < significandBound then extend m cs else (n, cs.length + 1)

/-- A float divided by `10 ^ e`, at most `10 ^ 308` at a time. -/
def scaleDown (x : Float) (e : Nat) : Float :=
  if e ≤ 308 then x / (Decimal.toFloat ⟨1, e⟩)
  else if x == 0.0 then x
  else scaleDown (x / 1e308) (e - 308)
termination_by e

/-- A float times `10 ^ e`, unless that is too large. -/
def scaleUp? (x : Float) (e : Nat) : Option Float :=
  if e ≤ 308 then
    let y := x * Decimal.toFloat ⟨1, e⟩
    if y.isInf then none else some y
  else if x == 0.0 then some x
  else none

/-- The float of a significand and a power of ten. -/
def scaled? (negative : Bool) (n : Nat) (e : Int) : Option Float :=
  (if 0 ≤ e then scaleUp? n.toFloat e.toNat else some (scaleDown n.toFloat (-e).toNat)).map
    fun x => if negative then -x else x

/-- The largest exponent that is taken at its word. -/
def exponentBound : Nat := 0x80000000

/-- Negative whole numbers have at most this magnitude. -/
def negativeBound : Nat := 0x8000000000000000

namespace Reader

/-- The value of a significand and a power of ten, or a fault. -/
def scaled (negative : Bool) (n : Nat) (e : Int) : Reader Numeral :=
  match scaled? negative n e with
  | some x => return .float x
  | none => fail .malformed

/-- The digits at the front of the text. -/
def digits : Reader (List Char) := fun s => .ok (s.takeWhile Char.isDigit, s.dropWhile Char.isDigit)

/-- The next character without any white space before it, which stays unread. -/
def next : Reader (Option Char) := fun s => .ok (s.head?, s)

/-- The exponent behind its mark, with the significand and the exponent so far. -/
def exponent (negative : Bool) (n : Nat) (e : Int) : Reader Numeral := do
  let down := (← next) == some '-'
  if down || (← next) == some '+' then advance
  match ← next with
  | none => fail .ended
  | some c =>
    if !c.isDigit then fail .malformed
    else
      let size := (← digits).foldl (fun k c => 10 * k + (c.toNat - '0'.toNat)) 0
      if exponentBound ≤ size then
        if n ≠ 0 ∧ !down then fail .malformed
        else return .float (if negative then -0.0 else 0.0)
      else scaled negative n (if down then e - size else e + size)

/-- What follows the digits of a fraction. -/
def afterFraction (negative : Bool) (n : Nat) (e : Int) : Reader Numeral := do
  match ← next with
  | some 'e' | some 'E' => advance; exponent negative n e
  | _ => scaled negative n e

/-- The fraction behind its point. -/
def fraction (negative : Bool) (n : Nat) (e : Int) : Reader Numeral := do
  match ← next with
  | none => fail .ended
  | some c =>
    if !c.isDigit then fail .malformed
    else
      let ds ← digits
      let (m, left) := extend n ds
      afterFraction negative m (e - (ds.length - left : Nat))

/-- What follows the whole digits `n`, of which `left` did not fit. -/
def afterWhole (negative : Bool) (n left : Nat) : Reader Numeral := do
  match ← next with
  | some '.' => advance; fraction negative n left
  | some 'e' | some 'E' => advance; exponent negative n left
  | _ =>
    if left ≠ 0 then scaled negative n left
    else if !negative then return .natural n
    else if n = 0 ∨ negativeBound < n then return .float (-n.toFloat)
    else return .negative n

/-- A number whose sign is behind. -/
def unsigned (negative : Bool) : Reader Numeral := do
  match ← next with
  | none => fail .ended
  | some c =>
    if c = '0' then
      advance
      match ← next with
      | some d => if d.isDigit then fail .malformed else afterWhole negative 0 0
      | none => afterWhole negative 0 0
    else if c.isDigit then
      let (n, left) := extend 0 (← digits)
      afterWhole negative n left
    else fail .malformed

/-- A number. -/
def numeral : Reader Numeral := do
  if (← next) == some '-' then
    advance
    unsigned true
  else unsigned false

/-- At least one digit, in a number of no interest. -/
def passDigits : Reader Unit := do
  if (← digits) = [] then fail .malformed

/-- Pass over a number. Here a number that the text breaks off is malformed. -/
def passNumeral : Reader Unit := do
  if (← next) == some '-' then advance
  match ← next with
  | some '0' =>
    advance
    if (← digits) ≠ [] then fail .malformed
  | _ => passDigits
  if (← next) == some '.' then
    advance
    passDigits
  if (← next) == some 'e' || (← next) == some 'E' then
    advance
    if (← next) == some '+' || (← next) == some '-' then advance
    passDigits

end Reader

end Groupwise.Json
