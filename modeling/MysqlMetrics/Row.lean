import MysqlMetrics.Row.Status
/-!
# Rows of a query result

A row pairs column names with cells, which may be absent (SQL NULL). It may have fewer or more
cells than columns. Columns are found without regard to the case of ASCII letters, and of several
with one name the first counts.
-/
namespace MysqlMetrics

abbrev Cell := Option Bytes

structure Row where
  columns : List String
  cells : List Cell
deriving DecidableEq, Repr, Inhabited

namespace Row

/-- The position of the first column of that name. -/
def indexOf (row : Row) (column : String) : Option Nat :=
  row.columns.findIdx? (Text.sameIgnoringCase · column)

def bytes (row : Row) (i : Nat) : Option Bytes := (row.cells[i]?).join

def text (row : Row) (i : Nat) : Option String := (row.bytes i).bind Utf8.decode

def number (row : Row) (i : Nat) : Option Float := (row.bytes i).bind Status.ofBytes

def textOf (row : Row) (column : String) : Option String := (row.indexOf column).bind row.text

def numberOf (row : Row) (column : String) : Option Float := (row.indexOf column).bind row.number

/-- Columns with their cells, as far as both go. -/
def pairs (row : Row) : List (String × Cell) := row.columns.zip row.cells

end Row

/-- The rows of one result, which share its columns. -/
def rowsOf (columns : List String) (cells : List (List Cell)) : List Row :=
  cells.map fun cs => ⟨columns, cs⟩

end MysqlMetrics
