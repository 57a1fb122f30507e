import Groupwise.Manifest.Json
import Groupwise.Text.Blank
import Groupwise.Text.Utf8

/-!
# Manifest logs

A log has one manifest on each line; logs grow at the end. Lines without anything but white space
are no entries.
-/

namespace Groupwise.ManifestLog

/-- Why a text is no log. -/
inductive LogError
  /-- The bytes of a line are no text. -/
  | notText
  /-- A line is no manifest. -/
  | json (fault : Json.Fault)
deriving DecidableEq, Repr

def lineFeed : UInt8 := 0x0A
def carriageReturn : UInt8 := 0x0D

/-- The line of a manifest. -/
def line (m : Manifest) : List UInt8 := Utf8.encode (Json.toValue m).render ++ [lineFeed]

/-- The bytes of a log with the given entries. -/
def write (ms : List Manifest) : List UInt8 := ms.flatMap line

/-- One more byte in front of the first line. -/
def pushByte (b : UInt8) : List (List UInt8) → List (List UInt8)
  | [] => [[b]]
  | l :: ls => (b :: l) :: ls

/-- The lines of a text, without the line feeds that end them and a carriage return before each. -/
def lines : List UInt8 → List (List UInt8)
  | [] => []
  | b :: bytes =>
    if b = lineFeed then [] :: lines bytes
    else if b = carriageReturn ∧ bytes.head? = some lineFeed then lines bytes
    else pushByte b (lines bytes)

/-- The entry of a line, if it has one. -/
def ofLine? (l : List UInt8) : Except LogError (Option Manifest) :=
  match Utf8.decode? l with
  | none => .error .notText
  | some s =>
    if s.toList.all Text.isBlank then .ok none
    else match Manifest.parse s with
      | .ok m => .ok (some m)
      | .error f => .error (.json f)

/-- The entries of lines; the first bad line counts. -/
def entries : List (List UInt8) → Except LogError (List Manifest)
  | [] => .ok []
  | l :: ls =>
    match ofLine? l with
    | .error e => .error e
    | .ok none => entries ls
    | .ok (some m) => (m :: ·) <$> entries ls

/-- The entries of a log. -/
def read (bytes : List UInt8) : Except LogError (List Manifest) := entries (lines bytes)

end Groupwise.ManifestLog
