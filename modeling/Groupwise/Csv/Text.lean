import Groupwise.Csv.Record
import Groupwise.Text.Blank
import Groupwise.Text.Digits
import Groupwise.Text.Utf8

/-!
# Tables of text

The fields of a table are texts without blanks at their ends, its first record is the header, and
all records have as many fields as the header.
-/

namespace Groupwise.Csv

/-! ### Reading -/

/-- Why a record is not part of a table of text. -/
inductive TextFault
  | unequalLengths (place : Place) (expected found : Nat)
  /-- The bytes of a field are no text from `index` on. -/
  | invalidText (place : Place) (field index : Nat)
deriving DecidableEq, Repr

/-- A place in messages. -/
def Place.text (p : Place) : String :=
  "record " ++ natText p.record ++ " (line: " ++ natText p.line ++ ", byte: " ++ natText p.byte ++
    ")"

def TextFault.message : TextFault → String
  | unequalLengths place expected found =>
    "CSV error: " ++ place.text ++ ": found record with " ++ natText found ++
      " fields, but the previous record has " ++ natText expected ++ " fields"
  | invalidText place field index =>
    "CSV parse error: record " ++ natText place.record ++ " (line " ++ natText place.line ++
      ", field: " ++ natText field ++ ", byte: " ++ natText place.byte ++
      "): invalid utf-8: invalid UTF-8 in field " ++ natText field ++ " near byte index " ++
      natText index

/-- The blanks that are dropped before a field is taken for text. -/
def isBlankByte (b : UInt8) : Bool :=
  b == 0x20 || b == 0x09 || b == 0x0A || b == 0x0C || b == 0x0D

/-- The bytes of a field without blanks at its ends. -/
def trimBytes (field : List UInt8) : List UInt8 :=
  ((field.dropWhile isBlankByte).reverse.dropWhile isBlankByte).reverse

/-- The text of a field. -/
def cellText? (field : List UInt8) : Option String :=
  (Utf8.decode? field).map fun s => String.ofList (Text.trim s.toList)

/-- The texts of the fields from number `i` on. -/
def cellTexts (place : Place) (i : Nat) : List (List UInt8) → Except TextFault (List String)
  | [] => .ok []
  | f :: fs =>
    match cellText? f with
    | none => .error (.invalidText place i (Utf8.validLength f))
    | some s => (s :: ·) <$> cellTexts place (i + 1) fs

/-- The names of the columns. -/
def headerTexts (r : Record) : Except TextFault (List String) := cellTexts r.place 0 r.fields

/-- The cells of a record in a table of the given width. -/
def rowTexts (width : Nat) (r : Record) : Except TextFault (List String) :=
  if r.fields.length = width then cellTexts r.place 0 (r.fields.map trimBytes)
  else .error (.unequalLengths r.place width r.fields.length)

/-! ### Writing -/

/-- A table in writing: the header is written together with the first row. -/
structure TableWriter where
  header : List String
  headed : Bool
deriving Repr

namespace TableWriter

def new (header : List String) : TableWriter := ⟨header, false⟩

/-- The bytes of more rows. -/
def write (w : TableWriter) (rows : List (List String)) : List UInt8 × TableWriter :=
  match rows with
  | [] => ([], w)
  | rows =>
    let lines := if w.headed then rows else w.header :: rows
    (encode (lines.map (·.map Utf8.encode)), { w with headed := true })

end TableWriter

end Groupwise.Csv
