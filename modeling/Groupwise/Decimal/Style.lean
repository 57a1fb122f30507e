import Groupwise.Decimal

/-!
# Writing floats

All texts made from floats show the same shortest digits. A `Style` says how they are laid out:
where positional notation ends, whether a whole number keeps its `.0`, how an exponent is marked,
and what is written for values that are not numbers. The styles in use are values at the end.
-/

namespace Groupwise.Decimal

/-- The layout of floats in one kind of text. -/
structure Style where
  /-- Which of two equally near decimals is written. -/
  tie : Tie
  /-- Decimals whose point stands here, counted from the first digit, are written without an
  exponent. -/
  positional : Int → Bool
  /-- Whole numbers in positional notation end in `.0`. -/
  marksWhole : Bool
  /-- Positive exponents carry a plus sign. -/
  signsExponent : Bool
  nan : String
  posInf : String
  negInf : String

namespace Style

/-- Digits with the point in place and no exponent. -/
def placed (style : Style) (digits : List Char) (point : Int) : List Char :=
  let whole := if style.marksWhole then ['.', '0'] else []
  if point ≤ 0 then '0' :: '.' :: (List.replicate (-point).toNat '0' ++ digits)
  else if digits.length ≤ point.toNat then
    digits ++ List.replicate (point.toNat - digits.length) '0' ++ whole
  else digits.take point.toNat ++ '.' :: digits.drop point.toNat

/-- The decimal exponent behind its mark. -/
def exponentText (style : Style) (e : Int) : List Char :=
  let sign := if e < 0 then ['-'] else if style.signsExponent then ['+'] else []
  'e' :: (sign ++ Nat.toDigits 10 e.natAbs)

/-- Digits with a point after the first and an exponent. -/
def scientific (style : Style) (digits : List Char) (point : Int) : List Char :=
  match digits with
  | [] => []
  | [d] => d :: style.exponentText (point - 1)
  | d :: ds => d :: '.' :: (ds ++ style.exponentText (point - 1))

/-- A positive decimal in the given style. -/
def ofDecimal (style : Style) (d : Decimal) : List Char :=
  if style.positional d.point then style.placed d.digits d.point
  else style.scientific d.digits d.point

/-- Zero in the given style. -/
def zeroText (style : Style) : List Char := if style.marksWhole then ['0', '.', '0'] else ['0']

/-- A float without its sign. -/
def magnitude (style : Style) (x : Float) : List Char :=
  if x == 0.0 then style.zeroText else style.ofDecimal (shortest style.tie x)

/-- The text of a float. -/
def render (style : Style) (x : Float) : String :=
  if x.isNaN then style.nan
  else if x.isInf then if x < 0.0 then style.negInf else style.posInf
  else if x.toBits >>> 63 = 0 then String.ofList (style.magnitude x)
  else String.ofList ('-' :: style.magnitude x.abs)

end Style

/-- The style of values shown for inspection: exponents from `1e16` on and below `1e-4`. -/
def inspect : Style where
  tie := .up
  positional p := decide (-4 < p ∧ p ≤ 16)
  marksWhole := true
  signsExponent := false
  nan := "NaN"
  posInf := "inf"
  negInf := "-inf"

/-- The style of amounts inside messages: never an exponent, whole numbers without a point. -/
def plain : Style where
  tie := .up
  positional _ := true
  marksWhole := false
  signsExponent := false
  nan := "NaN"
  posInf := "inf"
  negInf := "-inf"

/-- The style of JSON texts: signed exponents from `1e+16` on and below `1e-5`; what is no finite
number becomes `null`. -/
def json : Style where
  tie := .even
  positional p := decide (-5 < p ∧ p ≤ 16)
  marksWhole := true
  signsExponent := true
  nan := "null"
  posInf := "null"
  negInf := "null"

/-- The style of tables: as in JSON, with bare exponents and names for what is no finite
number. -/
def table : Style where
  tie := .even
  positional p := decide (-5 < p ∧ p ≤ 16)
  marksWhole := true
  signsExponent := false
  nan := "NaN"
  posInf := "inf"
  negInf := "-inf"

end Groupwise.Decimal
