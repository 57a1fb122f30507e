import Groupwise.Aggregate
import Groupwise.Decimal.Style
import Groupwise.Inspect

/-!
# Comparing results

Two results agree when they have the same keys and, for each key, values that agree within a
tolerance. The first disagreement found is reported: keys that are missing before keys that should
not be there, and both before values.
-/

namespace Groupwise

/-- Values that may differ a little and still count as equal. -/
class ApproxEq (V A : Type) where
  approxEq : A → A → V → Bool

instance {V : Type} [Number V] : ApproxEq V (Stats V) := ⟨Stats.approxEq⟩

instance {V : Type} [Number V] : ApproxEq V (Accumulator V) := ⟨Accumulator.approxEq⟩

instance : ApproxEq Float Int := ⟨fun a b _ => a == b⟩

/-- Floats agree when they are at most `tolerance` apart or the same value. -/
instance : ApproxEq Float Float where
  approxEq a b tolerance :=
    Number.le (Number.abs (Number.sub a b)) tolerance || Number.same a b

/-- How two results disagree. -/
inductive VerifyError (V K A : Type)
  | missingKey (key : K)
  | unexpectedKey (key : K)
  | sizeMismatch (expected actual : Nat)
  | valueMismatch (key : K) (expected actual : A) (tolerance : V)
deriving Repr

namespace VerifyError

variable {V K A : Type}

/-- The words for a disagreement; `showTolerance` writes the tolerance. -/
def message [Inspect K] [Inspect A] (showTolerance : V → String) : VerifyError V K A → String
  | missingKey k => "key " ++ inspect k ++ " missing from actual result"
  | unexpectedKey k => "unexpected key " ++ inspect k ++ " in actual result"
  | sizeMismatch n m =>
    "size mismatch: expected " ++ natText n ++ " keys, actual " ++ natText m
  | valueMismatch k want got tolerance =>
    "value mismatch for key " ++ inspect k ++ ": expected " ++ inspect want ++ ", actual " ++
      inspect got ++ " (tolerance " ++ showTolerance tolerance ++ ")"

end VerifyError

variable {V K A B : Type} [BEq K]

/-- Check that two maps have the same keys. -/
def verifySameKeys (expected : GroupMap K A) (actual : GroupMap K B) :
    Except (VerifyError V K A) Unit :=
  match expected.keys.find? fun k => !actual.contains k with
  | some k => .error (.missingKey k)
  | none =>
    match actual.keys.find? fun k => !expected.contains k with
    | some k => .error (.unexpectedKey k)
    | none =>
      if expected.size ≠ actual.size then .error (.sizeMismatch expected.size actual.size)
      else .ok ()

/-- What is wrong with the value of an expected entry, if anything is. -/
def mismatch? [ApproxEq V A] (actual : GroupMap K A) (tolerance : V) (e : K × A) :
    Option (VerifyError V K A) :=
  match actual.get? e.1 with
  | none => none
  | some got =>
    if ApproxEq.approxEq e.2 got tolerance then none
    else some (.valueMismatch e.1 e.2 got tolerance)

/-- Check that two maps have the same keys and, for each of them, values within `tolerance`. -/
def verifyMapsEqual [ApproxEq V A] (expected actual : GroupMap K A) (tolerance : V) :
    Except (VerifyError V K A) Unit :=
  match verifySameKeys expected actual with
  | .error e => .error e
  | .ok () =>
    match expected.entries.findSome? (mismatch? actual tolerance) with
    | some e => .error e
    | none => .ok ()

end Groupwise
