/-!
# Records of comma-separated values

A table is a sequence of records of one or more fields. Records end at a line break, which is a
carriage return, a line feed or both; empty lines are no records. A field that begins with a quote
runs to the closing quote, a quote inside it written twice; what follows the closing quote still
belongs to the field.

`records` reads a table and says where each record began. `encode` writes one: a field is quoted
only if it has to be.
-/

namespace Groupwise.Csv

def comma : UInt8 := 0x2C
def quote : UInt8 := 0x22
def lineFeed : UInt8 := 0x0A
def carriageReturn : UInt8 := 0x0D

def isBreak (b : UInt8) : Bool := b == lineFeed || b == carriageReturn

/-! ### Reading -/

/-- Where a reader stands within a field. -/
inductive Within
  /-- At the first byte. -/
  | start
  /-- In a field without quotes, or behind its closing quote. -/
  | plain
  | quoted
  /-- Behind a quote in a quoted field: it may be the closing one or the first of two. -/
  | closing
deriving DecidableEq, Repr

/-- A place in a text: how many records, line feeds and bytes lie before it. -/
structure Place where
  record : Nat
  line : Nat
  byte : Nat
deriving DecidableEq, Repr

/-- The first place. Lines are counted from one. -/
def Place.start : Place := ⟨0, 1, 0⟩

/-- How many line feeds and bytes a stretch of text has. -/
structure Extent where
  lines : Nat
  bytes : Nat
deriving DecidableEq, Repr

namespace Extent

def zero : Extent := ⟨0, 0⟩

/-- The stretch with one more byte. -/
def push (b : UInt8) (e : Extent) : Extent :=
  ⟨e.lines + if b = lineFeed then 1 else 0, e.bytes + 1⟩

/-- The extent of the given bytes. -/
def ofBytes (bytes : List UInt8) : Extent := ⟨bytes.count lineFeed, bytes.length⟩

end Extent

/-- The place behind one more record, which took two stretches of text. -/
def Place.after (p : Place) (d e : Extent) : Place :=
  ⟨p.record + 1, p.line + d.lines + e.lines, p.byte + d.bytes + e.bytes⟩

/-- The rest of a record: what is left of its first field, the other fields, the stretch of text
that it takes, and the bytes behind it. -/
structure Fields where
  first : List UInt8
  others : List (List UInt8)
  extent : Extent
  rest : List UInt8

namespace Fields

/-- The record ends here. -/
def last (extent : Extent) (rest : List UInt8) : Fields := ⟨[], [], extent, rest⟩

/-- One more byte of the first field. -/
def push (b : UInt8) (f : Fields) : Fields :=
  { f with first := b :: f.first, extent := f.extent.push b }

/-- One more byte that is no part of a field. -/
def skip (b : UInt8) (f : Fields) : Fields := { f with extent := f.extent.push b }

/-- One more field in front, which has no bytes yet. -/
def separate (f : Fields) : Fields := ⟨[], f.first :: f.others, f.extent.push comma, f.rest⟩

end Fields

/-- What a byte of a record is. -/
inductive Part
  /-- A byte of the field, and where the reader stands behind it. -/
  | content (next : Within)
  /-- A quote around the field. -/
  | mark (next : Within)
  | separator
  | terminator
deriving DecidableEq, Repr

/-- What a byte is where no quote is open. -/
def Part.plain (b : UInt8) : Part :=
  if b = comma then .separator else if isBreak b then .terminator else .content .plain

/-- What the next byte is. -/
def Within.part (b : UInt8) : Within → Part
  | .start => if b = quote then .mark .quoted else .plain b
  | .plain => .plain b
  | .quoted => if b = quote then .mark .closing else .content .quoted
  | .closing => if b = quote then .content .quoted else .plain b

/-- The rest of a record. -/
def scan (w : Within) : List UInt8 → Fields
  | [] => .last .zero []
  | b :: bytes =>
    match w.part b with
    | .content next => (scan next bytes).push b
    | .mark next => (scan next bytes).skip b
    | .separator => (scan .start bytes).separate
    | .terminator => .last (Extent.zero.push b) bytes

theorem length_rest_scan_le (w : Within) (bytes : List UInt8) :
    (scan w bytes).rest.length ≤ bytes.length := by
  induction bytes generalizing w with
  | nil => simp [scan, Fields.last]
  | cons b bytes ih =>
    have ih w := Nat.le_succ_of_le (ih w)
    simp only [scan, List.length_cons]
    split <;> simp [Fields.push, Fields.skip, Fields.separate, Fields.last, ih]

theorem length_rest_scan_cons_le (w : Within) (b : UInt8) (bytes : List UInt8) :
    (scan w (b :: bytes)).rest.length ≤ bytes.length := by
  simp only [scan]
  split <;> simp [Fields.push, Fields.skip, Fields.separate, Fields.last, length_rest_scan_le]

/-- A record and the place where the one before it ended. -/
structure Record where
  place : Place
  fields : List (List UInt8)
deriving DecidableEq, Repr

/-- The records of a text from a place on. -/
def recordsFrom (p : Place) (bytes : List UInt8) : List Record :=
  match _h : bytes.dropWhile isBreak with
  | [] => []
  | b :: more =>
    let fields := scan .start (b :: more)
    ⟨p, fields.first :: fields.others⟩ ::
      recordsFrom (p.after (.ofBytes (bytes.takeWhile isBreak)) fields.extent) fields.rest
termination_by bytes.length
decreasing_by
  have hd : (b :: more).length ≤ bytes.length := _h ▸ (List.dropWhile_sublist isBreak).length_le
  have hs := length_rest_scan_cons_le .start b more
  simp only [List.length_cons] at hd
  omega

/-- The mark that may stand at the front of a text. -/
def byteOrderMark : List UInt8 := [0xEF, 0xBB, 0xBF]

/-- The records of a text. A mark at its front is no part of the first record, but its bytes
count. -/
def records (bytes : List UInt8) : List Record :=
  if byteOrderMark.isPrefixOf bytes then
    match recordsFrom .start (bytes.drop 3) with
    | [] => []
    | r :: rest =>
      r :: rest.map fun s => { s with place := { s.place with byte := s.place.byte + 3 } }
  else recordsFrom .start bytes

/-! ### Writing -/

/-- Whether a field has to be quoted. -/
def needsQuotes (field : List UInt8) : Bool :=
  field.any fun b => b == comma || b == quote || isBreak b

/-- A field between quotes, quotes in it written twice. -/
def quoteField (field : List UInt8) : List UInt8 :=
  quote :: (field.flatMap fun b => if b = quote then [quote, quote] else [b]) ++ [quote]

/-- The text of a field. -/
def encodeField (field : List UInt8) : List UInt8 :=
  if needsQuotes field then quoteField field else field

/-- Fields separated by commas. -/
def encodeFields : List (List UInt8) → List UInt8
  | [] => []
  | [f] => encodeField f
  | f :: fs => encodeField f ++ comma :: encodeFields fs

/-- A line for a record. A record of one empty field is quoted, or it would be no record. -/
def encodeRecord (fields : List (List UInt8)) : List UInt8 :=
  (if fields = [[]] then quoteField [] else encodeFields fields) ++ [lineFeed]

/-- The text of a table. -/
def encode (rows : List (List (List UInt8))) : List UInt8 := rows.flatMap encodeRecord

end Groupwise.Csv
