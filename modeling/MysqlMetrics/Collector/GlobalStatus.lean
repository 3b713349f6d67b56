import MysqlMetrics.Collector.Basic
import MysqlMetrics.Row.Dispatch
/-!
# Global status

Status variables of the server. Families of keys become labels of one metric, the pages of the
buffer pool are told apart, and any other number becomes an untyped metric of its own.
-/
namespace MysqlMetrics.Collector.GlobalStatus

def subsystem : String := "global_status"

def query : String := "SHOW GLOBAL STATUS"

/-! ## Descriptors -/

def counter (stem help label : String) : Desc := describe subsystem stem help .counter [label]

def rules : List LabelRule :=
  [⟨"com_", counter "commands_total" "Total number of executed MySQL commands." "command"⟩,
   ⟨"handler_", counter "handlers_total" "Total number of executed MySQL handlers." "handler"⟩,
   ⟨"connection_errors_",
    counter "connection_errors_total" "Total number of MySQL connection errors." "error"⟩,
   ⟨"innodb_rows_",
    counter "innodb_row_ops_total" "Total number of MySQL InnoDB row operations." "operation"⟩,
   ⟨"performance_schema_",
    counter "performance_schema_lost_total" ("Total number of MySQL instrumentations that could " ++
      "not be loaded or created due to memory constraints.") "instrumentation"⟩]

def pages : Desc :=
  describe subsystem "buffer_pool_pages" "Innodb buffer pool pages by state." .gauge ["state"]

def dirtyPages : Desc :=
  describe subsystem "buffer_pool_dirty_pages" "Innodb buffer pool dirty pages." .gauge []

def pageChanges : Desc :=
  counter "buffer_pool_page_changes_total" "Innodb buffer pool page state changes." "operation"

/-- The texts that identify a cluster, in the order of their labels. -/
def clusterKeys : List String :=
  ["wsrep_local_state_uuid", "wsrep_cluster_state_uuid", "wsrep_provider_version"]

def clusterInfo : Desc :=
  describe "galera" "status_info" "PXC/Galera status information." .gauge clusterKeys

def clusterLatency : Desc :=
  describe "galera" "evs_repl_latency_seconds" "PXC/Galera group communication latency." .summary []

def genericDesc (key : String) : Desc :=
  describe subsystem (Naming.stem key) "Generic metric from SHOW GLOBAL STATUS." .untyped []

/-! ## Samples -/

/-- The whole number below a double, from zero to the largest of 64 bits. -/
def wholePart (x : Float) : Nat :=
  match Decimal.exactParts x with
  | .nan => 0
  | .infinite negative => if negative then 0 else Decimal.maxU64
  | .finite negative mantissa exponent =>
    if negative then 0
    else let (num, den) := Decimal.scaleTwo mantissa 1 (-exponent); min (num / den) Decimal.maxU64

/-- Least, mean, greatest, deviation and size of the latencies, as a summary. -/
def latencySample (raw : Bytes) : Option (Except MetricError Sample) :=
  match Status.listOfBytes raw with
  | some [least, mean, greatest, _, size] =>
    some (Sample.ofSummary clusterLatency
      ⟨wholePart size, mean * size, [(zero, least), (one, greatest)]⟩ [])
  | _ => none

/-- Pages in a state, pages that changed, or nothing for the total. -/
def pageSample (state : String) (value : Float) : Option (Except MetricError Sample) :=
  if ["data", "free", "misc", "old"].contains state then some (Sample.scalar pages value [state])
  else if state == "dirty" then some (Sample.scalar dirtyPages value [])
  else if state == "total" then none
  else some (Sample.scalar pageChanges value [state])

/-- The sample of one status variable, its name in small letters. -/
def sampleOf (key : String) (raw : Bytes) : Option (Except MetricError Sample) :=
  if key == "wsrep_evs_repl_latency" then latencySample raw
  else
    (Status.ofBytes raw).bind fun value =>
      match Text.after? "innodb_buffer_pool_pages_" key with
      | some state => pageSample state value
      | none =>
        match LabelRule.best rules key with
        | some (rule, label) => some (Sample.scalar rule.desc value [label])
        | none => some (Sample.scalar (genericDesc key) value [])

/-- The last text under a key. -/
def lastText (pairs : List (String × Bytes)) (key : String) : Option String :=
  (pairs.filterMap fun (k, raw) => if k == key then trimmedText raw else none).getLast?

/-- The sample that identifies a cluster, if all its texts are there. -/
def clusterSample (pairs : List (String × Bytes)) : Option (Except MetricError Sample) :=
  (clusterKeys.mapM (lastText pairs)).map fun values => Sample.scalar clusterInfo one values

def samples (rows : List Row) : Except MetricError (List Sample) :=
  let pairs := (keyValues rows).map fun (key, raw) => (Text.asciiLower key, raw)
  (pairs.filterMap (fun (key, raw) => sampleOf key raw) ++ (clusterSample pairs).toList).mapM id

def scraper : Scraper :=
  { name := "global_status"
    help := "Collect from SHOW GLOBAL STATUS"
    task := fun _ _ => fetch query fun rows => deliver (samples rows) }

end MysqlMetrics.Collector.GlobalStatus
