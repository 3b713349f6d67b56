import MysqlMetrics.Collector.Basic
import MysqlMetrics.Row.Dispatch
/-!
# Table statistics

What the optimizer has stored about the tables: their rows and the pages of their indexes.
-/
namespace MysqlMetrics.Collector.TableStatistics

def query : String :=
  "\n    SELECT\n        database_name, table_name, n_rows, clustered_index_size, " ++
  "sum_of_other_index_sizes\n    FROM mysql.innodb_table_stats\n"

/-- Columns, which are also the stems of their gauges, with their help. -/
def columns : List (String × String) :=
  [("n_rows", "Number of rows in the table."),
   ("clustered_index_size", "The size of the primary index, in pages."),
   ("sum_of_other_index_sizes", "The total size of other (non-primary) indexes, in pages.")]

def table : Dispatch :=
  columns.foldl (fun t (column, help) => t.column column .gauge column help one)
    (Dispatch.new Naming.root "innodb_table_stats"
      [("database_name", "database_name"), ("table_name", "table_name")])

def samples (rows : List Row) : Except MetricError (List Sample) :=
  (rows.mapM table.samples).map List.flatten

def scraper : Scraper :=
  { name := "mysql.innodb_table_stats"
    help := "Collect table statistics from mysql.innodb_table_stats"
    task := fun _ _ => fetchOrAbsent query fun rows => deliver (samples rows) }

end MysqlMetrics.Collector.TableStatistics
