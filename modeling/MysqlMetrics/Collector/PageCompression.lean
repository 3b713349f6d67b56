import MysqlMetrics.Collector.Basic
import MysqlMetrics.Row.Dispatch
/-!
# Page compression

How often pages of each size were compressed and uncompressed, and the time it took.
-/
namespace MysqlMetrics.Collector.PageCompression

def query : String :=
  "\n    SELECT\n        page_size, compress_ops, compress_ops_ok, compress_time, " ++
  "uncompress_ops, uncompress_time\n    FROM information_schema.innodb_cmp\n"

/-- Columns with the stem and the help of their counters. -/
def columns : List (String × String × String) :=
  [("compress_ops", "innodb_cmp_compress_ops_total",
    "Number of times a B-tree page of the size PAGE_SIZE has been compressed."),
   ("compress_ops_ok", "innodb_cmp_compress_ops_ok_total",
    "Number of times a B-tree page of the size PAGE_SIZE has been successfully compressed."),
   ("compress_time", "innodb_cmp_compress_time_seconds_total",
    "Total time in seconds spent in attempts to compress B-tree pages."),
   ("uncompress_ops", "innodb_cmp_uncompress_ops_total",
    "Number of times a B-tree page of the size PAGE_SIZE has been uncompressed."),
   ("uncompress_time", "innodb_cmp_uncompress_time_seconds_total",
    "Total time in seconds spent in uncompressing B-tree pages.")]

def table : Dispatch :=
  columns.foldl (fun t (column, stem, help) => t.column column .counter stem help one)
    (Dispatch.new Naming.root infoSchema [("page_size", "page_size")])

def samples (rows : List Row) : Except MetricError (List Sample) :=
  (rows.mapM table.samples).map List.flatten

def scraper : Scraper :=
  { name := "info_schema.innodb_cmp"
    help := "Collect metrics from information_schema.innodb_cmp"
    task := fun _ _ => fetchOrAbsent query fun rows => deliver (samples rows) }

end MysqlMetrics.Collector.PageCompression
