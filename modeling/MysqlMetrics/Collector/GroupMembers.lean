import MysqlMetrics.Collector.Basic
/-!
# Group members

The members of a replication group. Servers differ in the columns they have, so every column
becomes a label of an information metric. The descriptor is kept as long as the columns stay.
-/
namespace MysqlMetrics.Collector.GroupMembers

def query : String := "SELECT * FROM performance_schema.replication_group_members"

def descFor (labels : List String) : Desc :=
  describe perfSchema "replication_group_member_info"
    ("Information about the replication group member: channel_name, member_id, member_host, " ++
      "member_port, member_state. (member_role and member_version where available)") .gauge labels

/-- The one place of the cache that is used. -/
def slot : String := "members"

/-- The kept descriptor if it has these labels, else a new one that is kept now. -/
def desc (cache : DescCache) (labels : List String) : Desc × DescCache :=
  match SortedTable.find? slot cache with
  | some d =>
    if d.labels = labels then (d, cache)
    else (descFor labels, SortedTable.insert slot (descFor labels) cache)
  | none => (descFor labels, SortedTable.insert slot (descFor labels) cache)

def labelValues (row : Row) : List String :=
  row.pairs.map fun (_, cell) => (cell.bind Utf8.decode).getD ""

/-- The labels are the columns of the first row. -/
def samples (cache : DescCache) (rows : List Row) :
    Except MetricError (List Sample) × DescCache :=
  match rows with
  | [] => (.ok [], cache)
  | first :: _ =>
    let (d, cache) := desc cache (first.columns.map Text.asciiLower)
    (rows.mapM fun row => Sample.scalar d one (labelValues row), cache)

def scraper : Scraper :=
  { name := "perf_schema.replication_group_members"
    help := "Collect metrics from performance_schema.replication_group_members"
    task := fun _ _ => fetchOrAbsent query fun rows =>
      .cached (fun cache => (samples cache rows).2) fun cache => deliver (samples cache rows).1 }

end MysqlMetrics.Collector.GroupMembers
