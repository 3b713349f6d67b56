import MysqlMetrics.Collector.Basic
import MysqlMetrics.Text.Lowercase
/-!
# Process list

Threads of the server by command and state, with the time they have spent there, and by host and
by user where the arguments ask for it. The rows come grouped more finely and are added up.
-/
namespace MysqlMetrics.Collector.Processlist

def definitions : List ArgDefinition :=
  [⟨"min_time", "Minimum time a thread must be in each state to be counted", .int 0⟩,
   ⟨"processes_by_user", "Enable collecting the number of processes by user", .bool true⟩,
   ⟨"processes_by_host", "Enable collecting the number of processes by host", .bool true⟩]

def gauge (stem help : String) (labels : List String) : Desc :=
  describe infoSchema ("processlist_" ++ stem) help .gauge labels

def threads : Desc :=
  gauge "threads" "The number of threads split by current state." ["command", "state"]

def seconds : Desc :=
  gauge "seconds" "The number of seconds threads have used split by current state."
    ["command", "state"]

def byUser : Desc := gauge "processes_by_user" "The number of processes by user." ["mysql_user"]

def byHost : Desc := gauge "processes_by_host" "The number of processes by host." ["client_host"]

/-- Threads that have been in their state for at least `minTime` seconds. -/
def queryFor (minTime : Int) : String :=
  "\n    SELECT\n        user,\n        SUBSTRING_INDEX(host, ':', 1) AS host,\n" ++
  "        COALESCE(command, '') AS command,\n        COALESCE(state, '') AS state,\n" ++
  "        COUNT(*) AS processes,\n        SUM(time) AS seconds\n" ++
  "    FROM information_schema.processlist\n    WHERE ID != connection_id()\n" ++
  "        AND TIME >= " ++ toString (max minTime 0) ++ "\n" ++
  "    GROUP BY user, host, command, state\n"

def query (args : ArgSet) : String := queryFor (args.int "min_time")

/-! ## Labels -/

def unknown : String := "unknown"

def isPunctuation (c : Char) : Bool :=
  c == ';' || c == ',' || c == ':' || c == '.' || c == '(' || c == ')'

/-- A state in small letters: punctuation is left out, blanks and dashes become underscores. A
thread without state is in an unknown one. -/
def stateLabel (state : String) : String :=
  if state.isEmpty then unknown
  else
    String.ofList (((Text.lowercase state).toList.filter fun c => !isPunctuation c).map fun c =>
      if c = ' ' || c = '-' then '_' else c)

/-! ## Adding up -/

/-- One row with a number of processes. -/
structure Group where
  user : String
  host : String
  command : String
  state : String
  processes : Float
  seconds : Float

def Group.ofRow (row : Row) : Option Group :=
  (row.numberOf "processes").map fun n =>
    let text (column : String) := (row.textOf column).getD ""
    ⟨text "user", if (text "host").isEmpty then unknown else text "host",
      Text.lowercase (text "command"), stateLabel (text "state"), n,
      (row.numberOf "seconds").getD zero⟩

/-- Adds a number to what is counted under a key. -/
def count {α : Type} [Ord α] (key : α) (x : Float) (t : SortedTable α Float) :
    SortedTable α Float :=
  SortedTable.upsert key (fun old => old.getD zero + x) t

/-- The sum of a measure over the groups with the same key, by key. -/
def total {α : Type} [Ord α] (key : Group → α) (measure : Group → Float) (groups : List Group) :
    SortedTable α Float :=
  groups.foldl (fun t g => count (key g) (measure g) t) []

/-- Threads and seconds by command and state; both tables have the same keys. -/
def stateSamples (groups : List Group) : List (Except MetricError Sample) :=
  let key (g : Group) : List String := [g.command, g.state]
  let numbers := total key Group.processes groups
  let times := total key Group.seconds groups
  (numbers.zip times).flatMap fun ((labels, n), (_, t)) =>
    [Sample.scalar threads n labels, Sample.scalar seconds t labels]

def labelled (desc : Desc) (t : SortedTable String Float) : List (Except MetricError Sample) :=
  t.map fun (label, n) => Sample.scalar desc n [label]

def samples (args : ArgSet) (rows : List Row) : Except MetricError (List Sample) :=
  let groups := rows.filterMap Group.ofRow
  (stateSamples groups ++
    (if args.bool "processes_by_host" then
      labelled byHost (total Group.host Group.processes groups) else []) ++
    (if args.bool "processes_by_user" then
      labelled byUser (total Group.user Group.processes groups) else [])).mapM id

def scraper : Scraper :=
  { name := "info_schema.processlist"
    help := "Collect current thread state counts from the information_schema.processlist"
    definitions := some definitions
    task := fun args _ => fetchOrAbsent (query args) fun rows => deliver (samples args rows) }

end MysqlMetrics.Collector.Processlist
