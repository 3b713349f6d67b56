import MysqlMetrics.Collector.Basic
import MysqlMetrics.Sql.Quote
/-!
# Table sizes

Version, estimated rows and size of the components of every table, in all databases but the virtual
ones or in those that the argument names.
-/
namespace MysqlMetrics.Collector.TableSizes

def definitions : List ArgDefinition :=
  [⟨"databases", "The list of databases to collect table stats for, or '*' for all", .string "*"⟩]

def versionDesc : Desc :=
  describe infoSchema "table_version" "The version number of the table's .frm file." .gauge
    ["schema", "table", "type", "engine", "row_format", "create_options"]

def rowsDesc : Desc :=
  describe infoSchema "table_rows"
    "The estimated number of rows in the table from information_schema.tables." .gauge
    ["schema", "table"]

def sizeDesc : Desc :=
  describe infoSchema "table_size"
    "The size of the table components from information_schema.tables." .gauge
    ["schema", "table", "component"]

/-- Columns with the size of a component, and its name. -/
def components : List (String × String) :=
  [("DATA_LENGTH", "data_length"), ("INDEX_LENGTH", "index_length"), ("DATA_FREE", "data_free")]

/-! ## The query -/

def selection : String :=
  "\n    SELECT\n        TABLE_SCHEMA,\n        TABLE_NAME,\n        TABLE_TYPE,\n" ++
  "        IFNULL(ENGINE, 'NONE') AS ENGINE,\n        IFNULL(VERSION, '0') AS VERSION,\n" ++
  "        IFNULL(ROW_FORMAT, 'NONE') AS ROW_FORMAT,\n" ++
  "        IFNULL(TABLE_ROWS, '0') AS TABLE_ROWS,\n" ++
  "        IFNULL(DATA_LENGTH, '0') AS DATA_LENGTH,\n" ++
  "        IFNULL(INDEX_LENGTH, '0') AS INDEX_LENGTH,\n" ++
  "        IFNULL(DATA_FREE, '0') AS DATA_FREE,\n" ++
  "        IFNULL(CREATE_OPTIONS, 'NONE') AS CREATE_OPTIONS\n" ++
  "    FROM information_schema.tables\n"

/-- The names between commas, trimmed; blank ones are left out. -/
def databaseNames (databases : String) : List String :=
  ((Text.split ',' databases).map Text.trim).filter fun name => !name.isEmpty

/-- A star stands for every database but the virtual ones. -/
def filterFor (databases : String) : String :=
  if Text.trim databases == "*" then
    "WHERE TABLE_SCHEMA NOT IN ('information_schema', 'performance_schema')"
  else
    "WHERE TABLE_SCHEMA IN (" ++
      ", ".intercalate ((databaseNames databases).map Sql.quoteLiteral) ++ ")"

def queryFor (databases : String) : String := selection ++ " " ++ filterFor databases

def query (args : ArgSet) : String := queryFor (args.string "databases")

/-! ## Samples -/

def rowSamples (row : Row) : List (Except MetricError Sample) :=
  let text (column : String) := (row.textOf column).getD ""
  let place := [text "TABLE_SCHEMA", text "TABLE_NAME"]
  ((row.numberOf "VERSION").map fun v => Sample.scalar versionDesc v
    (place ++
      [text "TABLE_TYPE", text "ENGINE", text "ROW_FORMAT", text "CREATE_OPTIONS"])).toList ++
  ((row.numberOf "TABLE_ROWS").map fun n => Sample.scalar rowsDesc n place).toList ++
  components.filterMap fun (column, component) =>
    (row.numberOf column).map fun bytes => Sample.scalar sizeDesc bytes (place ++ [component])

def samples (rows : List Row) : Except MetricError (List Sample) :=
  (rows.flatMap rowSamples).mapM id

def scraper : Scraper :=
  { name := "info_schema.tables"
    help := "Collect metrics from information_schema.tables"
    definitions := some definitions
    task := fun args _ => fetchOrAbsent (query args) fun rows => deliver (samples rows) }

end MysqlMetrics.Collector.TableSizes
