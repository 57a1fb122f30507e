import Groupwise.Csv.Text
import Groupwise.Decimal.Style
import Groupwise.GroupMap
import Groupwise.Mode
import Groupwise.Stats

/-!
# Tables of statistics

A result is written with one row for each key, in the order of the keys. The rows of several
results go into one table, so each of them says which run it belongs to.
-/

namespace Groupwise

open Csv

namespace StatsTable

/-- A table of statistics without any rows yet. -/
def writer : TableWriter :=
  .new ["mode", "style", "grouping", "key", "count", "sum", "min", "max", "average"]

/-- The cells of the summary of a key. -/
def cells (kind : RunKind) (k : GroupKey Float) (s : Stats Float) : List String :=
  [kind.mode.name, kind.style.name, kind.grouping.name, k.name, natText s.count.toNat,
    Decimal.table.render s.sum, Decimal.table.render s.min, Decimal.table.render s.max,
    Decimal.table.render s.average]

/-- The bytes of one more result. -/
def write (w : TableWriter) (kind : RunKind) (result : GroupMap (GroupKey Float) (Stats Float)) :
    List UInt8 × TableWriter :=
  w.write ((Entries.sorted result.entries).map fun e => cells kind e.1 e.2)

end StatsTable

end Groupwise
