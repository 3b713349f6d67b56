import MysqlMetrics.Collector.Basic
/-!
# File events

Reads, writes and other operations on files by instrument: how many, how long and how much.
-/
namespace MysqlMetrics.Collector.FileEvents

def query : String :=
  "\n    SELECT\n        EVENT_NAME,\n" ++
  "        COUNT_READ, SUM_TIMER_READ, SUM_NUMBER_OF_BYTES_READ,\n" ++
  "        COUNT_WRITE, SUM_TIMER_WRITE, SUM_NUMBER_OF_BYTES_WRITE,\n" ++
  "        COUNT_MISC, SUM_TIMER_MISC\n    FROM performance_schema.file_summary_by_event_name\n"

def counter (stem help : String) : Desc :=
  describe perfSchema stem help .counter ["event_name", "mode"]

def events : Desc := counter "file_events_total" "The total file events by event name/mode."

def seconds : Desc :=
  counter "file_events_seconds_total" "The total seconds of file events by event name/mode."

def bytes : Desc :=
  counter "file_events_bytes_total" "The total bytes of file events by event name/mode."

/-- A mode of operation with its columns for the count, the time and the bytes. Other operations
than reads and writes move no data. -/
structure Mode where
  name : String
  count : String
  timer : String
  bytes : Option String

def modes : List Mode :=
  [⟨"read", "COUNT_READ", "SUM_TIMER_READ", some "SUM_NUMBER_OF_BYTES_READ"⟩,
   ⟨"write", "COUNT_WRITE", "SUM_TIMER_WRITE", some "SUM_NUMBER_OF_BYTES_WRITE"⟩,
   ⟨"misc", "COUNT_MISC", "SUM_TIMER_MISC", none⟩]

def modeSamples (row : Row) (event : String) (m : Mode) : List (Except MetricError Sample) :=
  let labels := [event, m.name]
  ((row.numberOf m.count).map fun x => Sample.scalar events x labels).toList ++
    ((row.numberOf m.timer).map fun x => Sample.scalar seconds (x / picoseconds) labels).toList ++
    ((m.bytes.bind row.numberOf).map fun x => Sample.scalar bytes x labels).toList

def rowSamples (row : Row) : List (Except MetricError Sample) :=
  match row.textOf "EVENT_NAME" with
  | none => []
  | some event => modes.flatMap (modeSamples row event)

def samples (rows : List Row) : Except MetricError (List Sample) :=
  (rows.flatMap rowSamples).mapM id

def scraper : Scraper :=
  { name := "perf_schema.file_events"
    help := "Collect metrics from performance_schema.file_summary_by_event_name"
    task := fun _ _ => fetchOrAbsent query fun rows => deliver (samples rows) }

end MysqlMetrics.Collector.FileEvents
