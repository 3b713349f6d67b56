import MysqlMetrics.Argument
import MysqlMetrics.Metric.Sample
import MysqlMetrics.Row
import MysqlMetrics.Server.Info
import MysqlMetrics.SortedTable
/-!
# Scrapers

A scraper is what measures one aspect of a server. What it does in a scrape is a task: it asks the
server, emits samples, waits, and ends well or badly. Against a given server a task unrolls into a
script, in which nothing is left open.
-/
namespace MysqlMetrics

/-! ## What a server answers -/

inductive QueryResult where
  | rows (rows : List Row)
  /-- The server refused the query with this number. -/
  | failed (code : Nat)

/-- The numbers with which a server says that it does not have what is asked for: a missing table,
database or variable, or a missing privilege. -/
def featureAbsentCodes : List Nat := [1044, 1049, 1109, 1142, 1146, 1193, 1227]

/-- A server as scrapers see it: the answer to each text of a query. -/
abbrev Database := String → QueryResult

/-! ## Tasks and scripts -/

/-- Descriptors that a scraper keeps from one scrape to the next. -/
abbrev DescCache := SortedTable String Desc

inductive Task where
  | done
  | fail (message : String)
  | panic (message : String)
  | emit (sample : Sample) (next : Task)
  | sleep (millis : Nat) (next : Task)
  | query (sql : String) (next : QueryResult → Task)
  /-- Looks at the cache and may change it. -/
  | cached (change : DescCache → DescCache) (next : DescCache → Task)

/-- What a running script does. -/
inductive Act where
  | emit (sample : Sample)
  | sleep (millis : Nat)

inductive Ending where
  | ok
  | failed (message : String)
  | panicked (message : String)
deriving DecidableEq, Repr

structure Script where
  acts : List Act
  ending : Ending

/-- A task against a server: its script, the cache it leaves, and the queries it sent. -/
structure Unrolled where
  script : Script
  cache : DescCache
  queries : List String

namespace Task

def emitAll (samples : List Sample) (next : Task) : Task := samples.foldr Task.emit next

def unroll (db : Database) (cache : DescCache) : Task → Unrolled
  | .done => ⟨⟨[], .ok⟩, cache, []⟩
  | .fail m => ⟨⟨[], .failed m⟩, cache, []⟩
  | .panic m => ⟨⟨[], .panicked m⟩, cache, []⟩
  | .emit s next =>
    let u := unroll db cache next
    { u with script := { u.script with acts := .emit s :: u.script.acts } }
  | .sleep ms next =>
    let u := unroll db cache next
    { u with script := { u.script with acts := .sleep ms :: u.script.acts } }
  | .query sql next =>
    let u := unroll db cache (next (db sql))
    { u with queries := sql :: u.queries }
  | .cached change next => unroll db (change cache) (next cache)

end Task

/-! ## Scrapers -/

structure Scraper where
  name : String
  help : String
  /-- Servers of a smaller version are passed over. -/
  minVersion : Version := Version.zero
  /-- The declared arguments, if the scraper takes any. -/
  definitions : Option (List ArgDefinition) := none
  /-- What it does with its current arguments against a server. -/
  task : ArgSet → ServerInfo → Task
  /-- What it refuses as arguments beyond wrong names and kinds. -/
  refuses : List Arg → Option ArgError := fun _ => none

/-- The arguments at their defaults, if the scraper takes any. -/
def Scraper.argSet (s : Scraper) : Option ArgSet :=
  s.definitions.map fun defs => { ArgSet.new s.name defs with refuses := s.refuses }

end MysqlMetrics
