import MysqlMetrics.Collector.Basic
import MysqlMetrics.Decimal.Reading
/-!
# Binary logs

How many binary log files there are, how large they are together, and the number of the last one.
Nothing is asked of a server that does not write them.
-/
namespace MysqlMetrics.Collector.BinaryLogs

def switchQuery : String := "SELECT @@log_bin"

def query : String := "SHOW BINARY LOGS"

def gauge (stem help : String) : Desc := describe "binlog" stem help .gauge []

def sizeDesc : Desc := gauge "size_bytes" "Combined size of all registered binlog files."

def filesDesc : Desc := gauge "files" "Number of registered binlog files."

def numberDesc : Desc := gauge "file_number" "The last binlog file number."

/-- The sum from the left; the sum of nothing is the neutral element, negative zero. -/
def sum (xs : List Float) : Float := xs.foldl (· + ·) (-zero)

/-- The number behind the last dot of a file name. -/
def fileNumber (name : String) : Option Float :=
  (Text.cutLast '.' name).bind fun (_, ext) => Decimal.read ext

def samples (rows : List Row) : Except MetricError (List Sample) :=
  let number := (rows.getLast?.bind fun row => row.text 0).bind fileNumber
  ([Sample.scalar sizeDesc (sum (rows.filterMap fun row => row.number 1)) [],
    Sample.scalar filesDesc (Decimal.ofNat rows.length) []] ++
    (number.map fun n => Sample.scalar numberDesc n []).toList).mapM id

/-- Is the first cell of the answer a positive number? -/
def isOn (rows : List Row) : Bool :=
  match rows.head?.bind fun row => row.number 0 with
  | some x => zero < x
  | none => false

def scraper : Scraper :=
  { name := "binlog_size"
    help := "Collect the current size of all registered binlog files"
    task := fun _ _ => fetch switchQuery fun answer =>
      if isOn answer then fetchOrAbsent query fun rows => deliver (samples rows) else .done }

end MysqlMetrics.Collector.BinaryLogs
