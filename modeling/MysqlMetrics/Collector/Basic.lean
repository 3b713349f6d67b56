import MysqlMetrics.Naming
import MysqlMetrics.Scraper
/-!
# What collectors share

A collector asks the server a question and turns the rows into samples. A server that says it does
not have what was asked for leaves the collector successful and without samples; any other refusal
fails it.
-/
namespace MysqlMetrics.Collector

/-- What is reported of a query that the server refused. -/
def queryFailure (code : Nat) : String := "query failed with error " ++ toString code

/-- Asks, and fails if the server refuses. -/
def fetch (sql : String) (next : List Row → Task) : Task :=
  .query sql fun
    | .rows rows => next rows
    | .failed code => .fail (queryFailure code)

/-- Asks, and is done if the server does not have what is asked for. -/
def fetchOrAbsent (sql : String) (next : List Row → Task) : Task :=
  .query sql fun
    | .rows rows => next rows
    | .failed code => if featureAbsentCodes.contains code then .done else .fail (queryFailure code)

/-- Emits all samples, or fails if they could not be made. -/
def deliver : Except MetricError (List Sample) → Task
  | .ok samples => Task.emitAll samples .done
  | .error e => .fail e.message

/-- A metric of the exporter under a subsystem. -/
def describe (subsystem stem help : String) (kind : Kind) (labels : List String) : Desc :=
  ⟨Naming.join Naming.root subsystem stem, help, kind, labels, []⟩

/-- Names with values, from the first two columns of rows that have both. -/
def keyValues (rows : List Row) : List (String × Bytes) :=
  rows.filterMap fun row =>
    match row.text 0, row.bytes 1 with
    | some key, some value => some (key, value)
    | _, _ => none

/-- The text of a cell without the blanks around it. -/
def trimmedText (bs : Bytes) : Option String := (Utf8.decode bs).map Text.trim

/-- The subsystem of what is read from the information schema. -/
def infoSchema : String := "info_schema"

/-- The subsystem of what is read from the performance schema. -/
def perfSchema : String := "perf_schema"

/-- Picoseconds in a second. -/
def picoseconds : Float := Decimal.ofNat 1000000000000

def one : Float := Decimal.ofNat 1

def zero : Float := Decimal.ofNat 0

end MysqlMetrics.Collector
