import MysqlMetrics.Collector.Basic
/-!
# Replica status

The state of a server as a replica: one set of metrics for each channel, named for the columns of
the answer. The descriptor of a metric is made when its column is first met and kept from then on,
so that all samples of the metric agree whatever columns come later.
-/
namespace MysqlMetrics.Collector.ReplicaStatus

def labels : List String := ["master_host", "master_uuid", "channel_name", "connection_name"]

/-- The columns that hold the labels; the first alternative with a text counts. -/
def labelColumns : List (List String) :=
  [["master_host", "source_host"], ["master_uuid", "source_uuid"], ["channel_name"],
   ["connection_name"]]

/-- The statement depends on the server: MariaDB tells all connections since 10.2, and MySQL speaks
of replicas since 8.0.22. -/
def queryFor (server : ServerInfo) : String :=
  match server.flavor with
  | .mariaDb => if server.atLeast ⟨10, 2, 0⟩ then "SHOW ALL SLAVES STATUS" else "SHOW SLAVE STATUS"
  | .mySql => if server.atLeast ⟨8, 0, 22⟩ then "SHOW REPLICA STATUS" else "SHOW SLAVE STATUS"

def isLabelColumn (column : String) : Bool :=
  labelColumns.flatten.any fun c => Text.sameIgnoringCase c column

/-- A number or a switch; a connection that is being made counts as off. -/
def valueOf (raw : Bytes) : Option Float :=
  match trimmedText raw with
  | some "Connecting" => some zero
  | _ => Status.ofBytes raw

def newDesc (column : String) : Desc :=
  describe "slave_status" (Naming.stem column)
    ("Generic metric from SHOW SLAVE STATUS (" ++ column ++ ").") .untyped labels

/-- The descriptor for a column: the one kept for its stem, or a new one that is kept now. -/
def descFor (cache : DescCache) (column : String) : Desc × DescCache :=
  let stem := Naming.stem column
  match SortedTable.find? stem cache with
  | some d => (d, cache)
  | none => (newDesc column, SortedTable.insert stem (newDesc column) cache)

def labelValues (row : Row) : List String :=
  labelColumns.map fun alternatives => (alternatives.findSome? row.textOf).getD ""

/-- The columns of a row with a number, and their numbers. -/
def measured (row : Row) : List (String × Float) :=
  row.pairs.filterMap fun (column, cell) =>
    if isLabelColumn column then none else (cell.bind valueOf).map fun x => (column, x)

/-- The samples of some columns, in order. -/
def columnSamples (values : List String) :
    DescCache → List (String × Float) → List (Except MetricError Sample) × DescCache
  | cache, [] => ([], cache)
  | cache, (column, x) :: rest =>
    let (desc, cache) := descFor cache column
    let (samples, cache) := columnSamples values cache rest
    (Sample.scalar desc x values :: samples, cache)

def rowsSamples : DescCache → List Row → List (Except MetricError Sample) × DescCache
  | cache, [] => ([], cache)
  | cache, row :: rest =>
    let (samples, cache) := columnSamples (labelValues row) cache (measured row)
    let (more, cache) := rowsSamples cache rest
    (samples ++ more, cache)

/-- The samples of all channels, and the descriptors kept after them. -/
def samples (cache : DescCache) (rows : List Row) :
    Except MetricError (List Sample) × DescCache :=
  let (samples, cache) := rowsSamples cache rows
  (samples.mapM id, cache)

def scraper : Scraper :=
  { name := "slave_status"
    help := "Collect from SHOW SLAVE STATUS"
    task := fun _ server => fetchOrAbsent (queryFor server) fun rows =>
      .cached (fun cache => (samples cache rows).2) fun cache => deliver (samples cache rows).1 }

end MysqlMetrics.Collector.ReplicaStatus
