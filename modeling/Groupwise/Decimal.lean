/-!
# Decimals and the floats they stand for

A decimal is a coefficient and a power of ten. `Decimal.toFloat` reads one as the nearest float.
In the other direction `shortest` picks the decimal that is written for a float: a point of the
coarsest power-of-ten grid that has a point reading back to the float, and of two such points the
nearer one.
-/

namespace Groupwise

/-- The number `coefficient * 10 ^ exponent`. -/
structure Decimal where
  coefficient : Nat
  exponent : Int
deriving DecidableEq, Repr, Inhabited

/-- Which way a value half-way between two neighbouring decimals goes. -/
inductive Tie
  | up
  | even
deriving DecidableEq, Repr

namespace Decimal

/-- The float nearest to a decimal. -/
def toFloat (d : Decimal) : Float :=
  Float.ofScientific d.coefficient (decide (d.exponent < 0)) d.exponent.natAbs

/-- The digits of the coefficient. -/
def digits (d : Decimal) : List Char := Nat.toDigits 10 d.coefficient

/-- Where the point stands, counted from the left end of the digits. -/
def point (d : Decimal) : Int := d.digits.length + d.exponent

end Decimal

/-- The number `mantissa * 2 ^ exponent`. -/
structure Binary where
  mantissa : Nat
  exponent : Int
deriving DecidableEq, Repr

namespace Binary

/-- The leading bit of a mantissa, which floats leave out unless they are tiny. -/
def leadingBit : Nat := 0x10000000000000

/-- The magnitude of a finite float, exactly. -/
def ofFloat (x : Float) : Binary :=
  let bits := x.toBits.toNat
  let fraction : Nat := bits % leadingBit
  let biased : Nat := bits / leadingBit % 0x800
  if biased = 0 then ⟨fraction, -1074⟩ else ⟨leadingBit + fraction, (biased : Int) - 1075⟩

/-- The same number as a decimal. -/
def toDecimal (b : Binary) : Decimal :=
  if 0 ≤ b.exponent then ⟨b.mantissa * Nat.pow 2 b.exponent.toNat, 0⟩
  else ⟨b.mantissa * Nat.pow 5 (-b.exponent).toNat, b.exponent⟩

/-- A power of ten that exceeds the number. -/
def bound (b : Binary) : Int :=
  ((b.mantissa.log2 : Int) + 1 + b.exponent) * 30103 / 100000 + 1

/-- The number over `10 ^ k`, as a numerator and a denominator. -/
def overPowerOfTen (b : Binary) (k : Int) : Nat × Nat :=
  (b.mantissa * Nat.pow 2 b.exponent.toNat * Nat.pow 10 (-k).toNat,
    Nat.pow 2 (-b.exponent).toNat * Nat.pow 10 k.toNat)

end Binary

namespace Decimal

/-- The point of the grid `10 ^ k` that stands for the positive float `x`, if one reads back to
it. Only the two neighbours of `x` can be nearest. -/
def onGrid (tie : Tie) (x : Float) (k : Int) : Option Decimal :=
  let (num, den) := (Binary.ofFloat x).overPowerOfTen k
  let below : Decimal := ⟨num / den, k⟩
  let above : Decimal := ⟨num / den + 1, k⟩
  match decide (below.toFloat = x), decide (above.toFloat = x) with
  | false, false => none
  | true, false => some below
  | false, true => some above
  | true, true =>
    match compare (2 * (num % den)) den with
    | .lt => some below
    | .gt => some above
    | .eq => if tie = .even ∧ below.coefficient % 2 = 0 then some below else some above

/-- The decimal written for a positive finite float: the fewest digits that read back to it, and
of those the nearest. -/
def shortest (tie : Tie) (x : Float) : Decimal :=
  let b := Binary.ofFloat x
  match (List.range 20).findSome? fun (i : Nat) => onGrid tie x (b.bound - i) with
  | some d => d
  | none => b.toDecimal

/-- A grid point that was picked reads back. -/
theorem toFloat_of_onGrid {tie : Tie} {x : Float} {k : Int} {d : Decimal}
    (h : onGrid tie x k = some d) : d.toFloat = x := by
  simp only [onGrid] at h
  split at h
  · cases h
  · next hb _ => cases h; exact of_decide_eq_true hb
  · next _ ha => cases h; exact of_decide_eq_true ha
  · next hb ha =>
    have hb := of_decide_eq_true hb
    have ha := of_decide_eq_true ha
    split at h
    · cases h; exact hb
    · cases h; exact ha
    · split at h <;> cases h
      · exact hb
      · exact ha

/-- The written decimal reads back unless no grid point does. -/
theorem toFloat_shortest (tie : Tie) (x : Float) :
    (shortest tie x).toFloat = x ∨ shortest tie x = (Binary.ofFloat x).toDecimal := by
  simp only [shortest]
  split
  · next d h =>
    obtain ⟨i, _, hi⟩ := List.exists_of_findSome?_eq_some h
    exact .inl (toFloat_of_onGrid hi)
  · exact .inr rfl

end Decimal

end Groupwise
