import Groupwise.Csv.Text
import Groupwise.Decimal.Literal
import Groupwise.Decimal.Style
import Groupwise.Position.Row
import Groupwise.Word

/-!
# Tables of positions

A table of positions has the columns account, product, category, price and quantity, in any order
and among others when it is read, in this order when it is written. Reading stops at the first row
that is not a position.
-/

namespace Groupwise

open Csv

/-! ### Columns -/

/-- The columns of a table of positions. -/
inductive PositionColumn
  | account
  | product
  | category
  | price
  | quantity
deriving DecidableEq, Repr

namespace PositionColumn

def all : List PositionColumn := [account, product, category, price, quantity]

def name : PositionColumn → String
  | account => "account"
  | product => "product"
  | category => "category"
  | price => "price"
  | quantity => "quantity"

def ofName? (s : String) : Option PositionColumn := all.find? (·.name == s)

end PositionColumn

/-- Why the text of a cell is no value of its column. -/
inductive CellFault
  | natural (fault : Literal.NatFault)
  | float (fault : Literal.FloatFault)
deriving DecidableEq, Repr

def CellFault.message : CellFault → String
  | natural fault => fault.message
  | float fault => fault.message

/-- Why the cells of a record are no row. -/
inductive CellsFault
  | invalid (field : Nat) (cause : CellFault)
  | repeatedColumn (column : PositionColumn)
  | missingColumn (column : PositionColumn)
deriving DecidableEq, Repr

def CellsFault.message : CellsFault → String
  | invalid field cause => "field " ++ natText field ++ ": " ++ cause.message
  | repeatedColumn column => "duplicate field `" ++ column.name ++ "`"
  | missingColumn column => "missing field `" ++ column.name ++ "`"

/-! ### Reading -/

/-- Quantities are below this bound. -/
def quantityBound : Nat := halfBound

/-- A quantity, in hexadecimal behind `0x` and decimal otherwise. -/
def readQuantity (s : String) : Except Literal.NatFault Nat :=
  match s.toList with
  | '0' :: 'x' :: digits => Literal.nat 16 quantityBound digits
  | digits => Literal.nat 10 quantityBound digits

/-- The cells of a row that have been read so far. -/
structure Cells where
  account : Option String := none
  product : Option String := none
  category : Option String := none
  price : Option Float := none
  quantity : Option Nat := none

namespace Cells

def has (c : PositionColumn) (cells : Cells) : Bool :=
  match c with
  | .account => cells.account.isSome
  | .product => cells.product.isSome
  | .category => cells.category.isSome
  | .price => cells.price.isSome
  | .quantity => cells.quantity.isSome

/-- Read the cell of a column. -/
def put (c : PositionColumn) (s : String) (cells : Cells) : Except CellFault Cells :=
  match c with
  | .account => .ok { cells with account := s }
  | .product => .ok { cells with product := s }
  | .category => .ok { cells with category := s }
  | .price => match Literal.float s.toList with
    | .ok x => .ok { cells with price := x }
    | .error f => .error (.float f)
  | .quantity => match readQuantity s with
    | .ok n => .ok { cells with quantity := n }
    | .error f => .error (.natural f)

/-- A cell that has to be there. -/
def required {α : Type} (c : PositionColumn) : Option α → Except CellsFault α
  | some a => .ok a
  | none => .error (.missingColumn c)

/-- The row of the cells, all of which have to be there. -/
def row (cells : Cells) : Except CellsFault (PositionRow Float) := do
  return ⟨← required .account cells.account, ← required .product cells.product,
    ← required .category cells.category, ← required .price cells.price,
    ← required .quantity cells.quantity⟩

/-- Read the cells from number `i` on; columns of unknown names are passed over. -/
def read (i : Nat) (cells : Cells) : List (String × String) → Except CellsFault Cells
  | [] => .ok cells
  | (name, text) :: more =>
    match PositionColumn.ofName? name with
    | none => read (i + 1) cells more
    | some c =>
      if cells.has c then .error (.repeatedColumn c)
      else match cells.put c text with
        | .ok cells => read (i + 1) cells more
        | .error cause => .error (.invalid i cause)

end Cells

/-- The row of a record under the given header. -/
def readPositionRow (header cells : List String) : Except CellsFault (PositionRow Float) := do
  (← Cells.read 0 {} (header.zip cells)).row

/-- Why a text is no table of positions. -/
inductive PositionTableError
  | text (fault : TextFault)
  | cells (place : Place) (fault : CellsFault)
  /-- A row on the given line is no position. -/
  | row (line : Nat) (fault : RowFault Float)

namespace PositionTableError

/-- The words for a row, without its place. -/
def rowMessage (fault : RowFault Float) : String := fault.message Decimal.plain.render

def message : PositionTableError → String
  | text fault => "csv: " ++ fault.message
  | cells place fault => "csv: CSV deserialize error: " ++ place.text ++ ": " ++ fault.message
  | row line fault => "line " ++ natText line ++ ": " ++ rowMessage fault

end PositionTableError

namespace PositionTable

/-- Read one record. -/
def readRecord (header : List String) (keys : PositionKeys Float) (r : Record) :
    Except PositionTableError (PooledPosition Float × PositionKeys Float) :=
  match rowTexts header.length r with
  | .error f => .error (.text f)
  | .ok cells =>
    match readPositionRow header cells with
    | .error f => .error (.cells r.place f)
    | .ok row =>
      match keys.register row with
      | .error f => .error (.row r.place.line f)
      | .ok result => .ok result

/-- Read the records behind the header. -/
def readRecords (header : List String) (keys : PositionKeys Float) :
    List Record → Except PositionTableError (List (PooledPosition Float))
  | [] => .ok []
  | r :: rs =>
    match readRecord header keys r with
    | .error e => .error e
    | .ok (p, keys) => (p :: ·) <$> readRecords header keys rs

/-- The positions of a table, and which instances their keys are. -/
def readPooled (bytes : List UInt8) :
    Except PositionTableError (List (PooledPosition Float)) :=
  match records bytes with
  | [] => .ok []
  | r :: rs =>
    match headerTexts r with
    | .error f => .error (.text f)
    | .ok header => readRecords header .empty rs

/-- The positions of a table. -/
def read (bytes : List UInt8) : Except PositionTableError (List (Position Float)) :=
  (readPooled bytes).map fun ps => ps.map PooledPosition.position

/-! ### Writing -/

/-- A table of positions without any rows yet. -/
def writer : TableWriter := .new (PositionColumn.all.map PositionColumn.name)

/-- The cells of a position. -/
def cells (p : Position Float) : List String :=
  [p.account.name, p.product.name, p.category, Decimal.table.render p.product.price,
    natText p.quantity]

/-- The bytes of more positions. -/
def write (w : TableWriter) (ps : List (Position Float)) : List UInt8 × TableWriter :=
  w.write (ps.map cells)

end PositionTable

end Groupwise
