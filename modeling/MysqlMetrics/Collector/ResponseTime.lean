import MysqlMetrics.Collector.BinaryLogs
import MysqlMetrics.Decimal.Whole
/-!
# Response times

Histograms of how long queries took, from servers that keep such statistics and have them turned
on. Reads and writes are counted apart only by some servers: a table that cannot be read is passed
over.
-/
namespace MysqlMetrics.Collector.ResponseTime

def switchQuery : String := "SELECT @@query_response_time_stats"

/-- The tables with the stems of their metrics. -/
def sources : List (String × String) :=
  [("QUERY_RESPONSE_TIME", "query_response_time_seconds"),
   ("QUERY_RESPONSE_TIME_READ", "read_query_response_time_seconds"),
   ("QUERY_RESPONSE_TIME_WRITE", "write_query_response_time_seconds")]

def descFor (table stem : String) : Desc :=
  describe infoSchema stem
    ("The number of queries according to the length of time they took to execute, from " ++ table ++
      ".") .histogram []

def queryFor (table : String) : String :=
  "SELECT TIME, COUNT, TOTAL FROM information_schema." ++ table ++ " ORDER BY TIME"

/-- The count of a row; what is no number counts nothing. -/
def countOf (row : Row) : Nat :=
  ((row.text 1).bind fun s => (Decimal.readU64 (Text.trim s)).toOption).getD 0

/-- The upper bound of a row. The last row of the server has a text in its place. -/
def boundOf (row : Row) : Option Float := (row.text 0).bind fun s => Decimal.read (Text.trim s)

/-- Adds a row: its count to the total, kept in 64 bits, and a bucket if it has a bound. -/
def addRow (h : Histogram) (row : Row) : Histogram :=
  let count := (h.count + countOf row) % (Decimal.maxU64 + 1)
  { count := count
    sum := h.sum + (row.number 2).getD zero
    buckets := h.buckets ++ ((boundOf row).map fun b => (b, count)).toList }

def histogramOf (rows : List Row) : Histogram := rows.foldl addRow ⟨0, zero, []⟩

def sample (desc : Desc) (rows : List Row) : Except MetricError Sample :=
  Sample.ofHistogram desc (histogramOf rows) []

/-- One table after the other, passing over those that fail or are empty. -/
def readTables : List (String × String) → Task
  | [] => .done
  | (table, stem) :: rest =>
    .query (queryFor table) fun
      | .failed _ => readTables rest
      | .rows [] => readTables rest
      | .rows (row :: rows) =>
        match sample (descFor table stem) (row :: rows) with
        | .ok s => .emit s (readTables rest)
        | .error e => .fail e.message

def scraper : Scraper :=
  { name := "info_schema.query_response_time"
    help := "Collect query response time distribution if query_response_time_stats is ON."
    task := fun _ _ => fetchOrAbsent switchQuery fun answer =>
      if BinaryLogs.isOn answer then readTables sources else .done }

end MysqlMetrics.Collector.ResponseTime
