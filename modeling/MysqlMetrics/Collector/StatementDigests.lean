import MysqlMetrics.Collector.Basic
import MysqlMetrics.Row.Dispatch
/-!
# Statement digests

What statements of one shape cost together: their time, rows, errors and sorts. The heaviest ones
are read, as many and as recent as the arguments say.
-/
namespace MysqlMetrics.Collector.StatementDigests

def definitions : List ArgDefinition :=
  [⟨"limit", "Limit the number of events statements digests by response time", .int 250⟩,
   ⟨"timelimit", "Limit how old the 'last_seen' events statements can be, in seconds", .int 86400⟩,
   ⟨"digest_text_limit", "Maximum length of the normalized statement text", .int 120⟩]

/-- Negative limits count as zero. -/
def queryFor (limit timelimit textLimit : Int) : String :=
  "\n    SELECT\n        IFNULL(SCHEMA_NAME, 'NONE') AS SCHEMA_NAME,\n        DIGEST,\n" ++
  "        LEFT(DIGEST_TEXT, " ++ toString (max textLimit 0) ++ ") AS DIGEST_TEXT,\n" ++
  "        COUNT_STAR,\n        SUM_TIMER_WAIT,\n        SUM_ERRORS,\n        SUM_WARNINGS,\n" ++
  "        SUM_ROWS_AFFECTED,\n        SUM_ROWS_SENT,\n        SUM_ROWS_EXAMINED,\n" ++
  "        SUM_CREATED_TMP_DISK_TABLES,\n        SUM_CREATED_TMP_TABLES,\n" ++
  "        SUM_SORT_MERGE_PASSES,\n        SUM_SORT_ROWS,\n        SUM_NO_INDEX_USED\n" ++
  "    FROM performance_schema.events_statements_summary_by_digest\n" ++
  "    WHERE SCHEMA_NAME NOT IN ('mysql', 'performance_schema', 'information_schema')\n" ++
  "        AND LAST_SEEN > DATE_SUB(NOW(), INTERVAL " ++ toString (max timelimit 0) ++
    " SECOND)\n" ++
  "    ORDER BY SUM_TIMER_WAIT DESC\n    LIMIT " ++ toString (max limit 0) ++ "\n"

def query (args : ArgSet) : String :=
  queryFor (args.int "limit") (args.int "timelimit") (args.int "digest_text_limit")

/-- Columns with the stem and the help of their counters, and the unit they are counted in. -/
def columns : List (String × String × String × Float) :=
  [("COUNT_STAR", "total", "The total count of events statements by digest.", one),
   ("SUM_TIMER_WAIT", "seconds_total", "The total time of events statements by digest.",
     picoseconds),
   ("SUM_ERRORS", "errors_total", "The errors of events statements by digest.", one),
   ("SUM_WARNINGS", "warnings_total", "The warnings of events statements by digest.", one),
   ("SUM_ROWS_AFFECTED", "rows_affected_total",
    "The total rows affected of events statements by digest.", one),
   ("SUM_ROWS_SENT", "rows_sent_total", "The total rows sent of events statements by digest.", one),
   ("SUM_ROWS_EXAMINED", "rows_examined_total",
    "The total rows examined of events statements by digest.", one),
   ("SUM_CREATED_TMP_DISK_TABLES", "tmp_disk_tables_total",
    "The total tmp disk tables of events statements by digest.", one),
   ("SUM_CREATED_TMP_TABLES", "tmp_tables_total",
    "The total tmp tables of events statements by digest.", one),
   ("SUM_SORT_MERGE_PASSES", "sort_merge_passes_total",
    "The total number of merge passes by the sort algorithm performed by digest.", one),
   ("SUM_SORT_ROWS", "sort_rows_total", "The total number of sorted rows by digest.", one),
   ("SUM_NO_INDEX_USED", "no_index_used_total",
    "The total number of statements that used full table scans by digest.", one)]

def table : Dispatch :=
  columns.foldl (fun t (column, stem, help, unit) =>
      t.column column .counter ("events_statements_" ++ stem) help unit)
    (Dispatch.new Naming.root perfSchema
      [("SCHEMA_NAME", "schema"), ("DIGEST", "digest"), ("DIGEST_TEXT", "digest_text")])

def samples (rows : List Row) : Except MetricError (List Sample) :=
  (rows.mapM table.samples).map List.flatten

def scraper : Scraper :=
  { name := "perf_schema.eventsstatements"
    help := "Collect metrics from performance_schema.events_statements_summary_by_digest"
    definitions := some definitions
    task := fun args _ => fetchOrAbsent (query args) fun rows => deliver (samples rows) }

end MysqlMetrics.Collector.StatementDigests
