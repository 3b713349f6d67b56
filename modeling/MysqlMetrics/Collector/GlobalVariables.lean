import MysqlMetrics.Collector.Basic
import MysqlMetrics.Decimal.Reading
/-!
# Global variables

Settings of the server. A number becomes a gauge; the version, the isolation level and what
describes a cluster become labels of information metrics.
-/
namespace MysqlMetrics.Collector.GlobalVariables

def query : String := "SHOW GLOBAL VARIABLES"

/-- Variables that are text: they label metrics and have no value. -/
def textVariables : List String :=
  ["innodb_version", "version", "version_comment", "tx_isolation", "transaction_isolation",
   "wsrep_cluster_name", "wsrep_provider_options"]

/-! ## Descriptors -/

def versionInfo : Desc :=
  describe "version" "info" "MySQL version and distribution." .gauge
    ["innodb_version", "version", "version_comment"]

def isolation : Desc :=
  describe "transaction" "isolation" "MySQL transaction isolation." .gauge ["level"]

def clusterInfo : Desc :=
  describe "galera" "variables_info" "PXC/Galera variables information." .gauge
    ["wsrep_cluster_name"]

def cacheSize : Desc := describe "galera" "gcache_size_bytes" "PXC/Galera gcache size." .gauge []

def genericDesc (key : String) : Desc :=
  describe "global_variables" (Naming.stem key)
    ("Generic gauge metric from SHOW GLOBAL VARIABLES (" ++ key ++ ").") .gauge []

/-! ## The size of the cluster's cache -/

/-- How many bytes the letter of a unit stands for. -/
def unitOf (c : Char) : Option Nat :=
  match c.toLower with
  | 'k' => some (1 <<< 10)
  | 'm' => some (1 <<< 20)
  | 'g' => some (1 <<< 30)
  | 't' => some (1 <<< 40)
  | _ => none

/-- A number of bytes, with a unit or without. -/
def byteSize (value : String) : Option Float :=
  let cs := Text.trimList value.toList
  match cs.getLast? with
  | none => none
  | some c =>
    let (number, unit) := match unitOf c with
      | some unit => (cs.dropLast, unit)
      | none => (cs, 1)
    (Decimal.readList (Text.trimList number)).map (· * Decimal.ofNat unit)

/-- The size among the options of a cluster, which are pairs divided by semicolons. -/
def cacheSizeOf (options : String) : Option Float :=
  let pairs := (Text.split ';' options).filterMap (Text.cut '=')
  (pairs.find? fun (name, _) => Text.trim name == "gcache.size").bind fun (_, value) =>
    byteSize value

/-! ## Samples -/

/-- The last text of a variable. -/
def textOf (pairs : List (String × Bytes)) (name : String) : Option String :=
  (pairs.filterMap fun (k, raw) => if k == name then trimmedText raw else none).getLast?

def numberSample (key : String) (raw : Bytes) : Option (Except MetricError Sample) :=
  if textVariables.contains key then none
  else (Status.ofBytes raw).map fun value => Sample.scalar (genericDesc key) value []

/-- The information metrics: the version always, the others where the server has them. -/
def infoSamples (text : String → Option String) : List (Except MetricError Sample) :=
  let version :=
    ["innodb_version", "version", "version_comment"].map fun name => (text name).getD ""
  let level := (text "transaction_isolation").or (text "tx_isolation")
  [Sample.scalar versionInfo one version] ++
    (level.map fun l => Sample.scalar isolation one [l]).toList ++
    ((text "wsrep_cluster_name").map fun name => Sample.scalar clusterInfo one [name]).toList ++
    (((text "wsrep_provider_options").bind cacheSizeOf).map fun size =>
      Sample.scalar cacheSize size []).toList

def samples (rows : List Row) : Except MetricError (List Sample) :=
  let pairs := (keyValues rows).map fun (key, raw) => (Text.asciiLower key, raw)
  (pairs.filterMap (fun (key, raw) => numberSample key raw) ++ infoSamples (textOf pairs)).mapM id

def scraper : Scraper :=
  { name := "global_variables"
    help := "Collect from SHOW GLOBAL VARIABLES"
    task := fun _ _ => fetch query fun rows => deliver (samples rows) }

end MysqlMetrics.Collector.GlobalVariables
