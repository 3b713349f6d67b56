import MysqlMetrics.Collector.Basic
import MysqlMetrics.Sql.Quote
/-!
# Heartbeat

A writer stores the time in a table; read from a replica, the difference to the present time is its
delay. The table is named by arguments, which stand in the query as quoted identifiers.
-/
namespace MysqlMetrics.Collector.Heartbeat

def definitions : List ArgDefinition :=
  [⟨"database", "Database from where to collect heartbeat data", .string "heartbeat"⟩,
   ⟨"table", "Table from where to collect heartbeat data", .string "heartbeat"⟩,
   ⟨"utc", "Use UTC for timestamps of the current server", .bool false⟩]

def gauge (stem help : String) : Desc := describe "heartbeat" stem help .gauge ["server_id"]

def stored : Desc := gauge "stored_timestamp_seconds" "Timestamp stored in the heartbeat table."

def now : Desc := gauge "now_timestamp_seconds" "Timestamp of the current server."

/-- The query for a table, by local time or by universal time. -/
def queryFor (database table : String) (utc : Bool) : String :=
  "SELECT UNIX_TIMESTAMP(ts), UNIX_TIMESTAMP(" ++ (if utc then "UTC_TIMESTAMP(6)" else "NOW(6)") ++
    "), server_id FROM " ++ Sql.quoteIdentifier database ++ "." ++ Sql.quoteIdentifier table

def query (args : ArgSet) : String :=
  queryFor (args.string "database") (args.string "table") (args.bool "utc")

/-- Both times of a row that has them and a server. -/
def rowSamples (row : Row) : List (Except MetricError Sample) :=
  match row.number 0, row.number 1, row.text 2 with
  | some s, some n, some server => [Sample.scalar stored s [server], Sample.scalar now n [server]]
  | _, _, _ => []

def samples (rows : List Row) : Except MetricError (List Sample) :=
  (rows.flatMap rowSamples).mapM id

def scraper : Scraper :=
  { name := "heartbeat"
    help := "Collect from heartbeat"
    definitions := some definitions
    task := fun args _ => fetchOrAbsent (query args) fun rows => deliver (samples rows) }

end MysqlMetrics.Collector.Heartbeat
