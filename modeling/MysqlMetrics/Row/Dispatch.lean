import MysqlMetrics.Metric.Sample
import MysqlMetrics.Naming
import MysqlMetrics.Row
import MysqlMetrics.SortedTable
/-!
# From columns to metrics

A dispatch table says what the columns of a result mean. Label columns label every sample of the
row; a known column has a metric of its own, with a unit to divide by; any other column with a
number becomes an untyped metric named for it.
-/
namespace MysqlMetrics

/-- The metric of a known column, and the unit its values are divided by. -/
structure ColumnMetric where
  desc : Desc
  unit : Float

structure Dispatch where
  /-- What every metric name starts with. -/
  stem : String
  /-- Label columns, in small letters, with the names of their labels. -/
  labelColumns : List (String × String)
  /-- Known columns in small letters. -/
  known : SortedTable String ColumnMetric

namespace Dispatch

def new (ns subsystem : String) (labelColumns : List (String × String)) : Dispatch :=
  ⟨Naming.join ns subsystem "", labelColumns.map fun (c, l) => (Text.asciiLower c, l), []⟩

def labelNames (d : Dispatch) : List String := d.labelColumns.map (·.2)

/-- Makes a column known; a later declaration replaces an earlier one. -/
def column (d : Dispatch) (name : String) (kind : Kind) (stem help : String) (unit : Float) :
    Dispatch :=
  let desc : Desc := ⟨d.stem ++ "_" ++ stem, help, kind, d.labelNames, []⟩
  { d with known := SortedTable.insert (Text.asciiLower name) ⟨desc, unit⟩ d.known }

def get? (d : Dispatch) (column : String) : Option ColumnMetric :=
  SortedTable.find? (Text.asciiLower column) d.known

def isLabel (d : Dispatch) (column : String) : Bool :=
  d.labelColumns.any fun (c, _) => Text.sameIgnoringCase c column

/-- The descriptor of a column that is not known. -/
def genericDesc (d : Dispatch) (column : String) : Desc :=
  ⟨d.stem ++ "_" ++ Naming.stem column, "Generic metric from column " ++ column ++ ".", .untyped,
    d.labelNames, []⟩

/-- The label values of a row: the text of each label column, or nothing. -/
def labelValues (d : Dispatch) (row : Row) : List String :=
  d.labelColumns.map fun (c, _) => (row.textOf c).getD ""

/-- The sample of one column, if it is no label and has a number. -/
def sampleOf (d : Dispatch) (labels : List String) (column : String) (cell : Cell) :
    Option (Except MetricError Sample) :=
  if d.isLabel column then none
  else
    (cell.bind Status.ofBytes).map fun value =>
      match d.get? column with
      | some m => Sample.scalar m.desc (value / m.unit) labels
      | none => Sample.scalar (d.genericDesc column) value labels

/-- The samples of a row, in the order of its columns. -/
def samples (d : Dispatch) (row : Row) : Except MetricError (List Sample) :=
  (row.pairs.filterMap fun (column, cell) => d.sampleOf (d.labelValues row) column cell).mapM id

end Dispatch

/-! ## Label rules -/

/-- Keys that begin with `start` belong to one metric; what follows is their label. -/
structure LabelRule where
  start : String
  desc : Desc

/-- Of the rules whose start is followed by something in the key, taken in small letters, the last
of those with the longest start, with what follows. -/
def LabelRule.best (rules : List LabelRule) (key : String) : Option (LabelRule × String) :=
  rules.foldl (fun found rule =>
    match Text.after? rule.start (Text.asciiLower key) with
    | none => found
    | some rest =>
      if rest.isEmpty then found
      else
        match found with
        | some (old, _) => if old.start.length ≤ rule.start.length then some (rule, rest) else found
        | none => some (rule, rest)) none

end MysqlMetrics
