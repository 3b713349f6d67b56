import MysqlMetrics.Decimal.Binary64
import MysqlMetrics.Decimal.Whole
import MysqlMetrics.Metric.Family
import MysqlMetrics.Naming
/-!
# Totals of the exporter

What the exporter counts about itself as long as it runs: the scrapes it began, the failures of
each scraper, and whether the last scrape that ended was flawed.
-/
namespace MysqlMetrics

structure ScrapeStats where
  scrapes : Nat := 0
  /-- The failures of every scraper that has been asked about or has failed. -/
  errors : SortedTable String Nat := []
  lastFailed : Bool := false
deriving Repr, Inhabited

namespace ScrapeStats

def beginScrape (s : ScrapeStats) : ScrapeStats := { s with scrapes := s.scrapes + 1 }

def endScrape (s : ScrapeStats) (failed : Bool) : ScrapeStats := { s with lastFailed := failed }

def recordError (s : ScrapeStats) (scraper : String) : ScrapeStats :=
  { s with errors := SortedTable.upsert scraper (fun n => n.getD 0 + 1) s.errors }

def recordErrors (s : ScrapeStats) (scrapers : List String) : ScrapeStats :=
  scrapers.foldl recordError s

/-- The failures of a scraper. One that was never asked about is counted from here on. -/
def errorsOf (s : ScrapeStats) (scraper : String) : Nat × ScrapeStats :=
  (((SortedTable.find? scraper s.errors).getD 0),
    { s with errors := SortedTable.upsert scraper (·.getD 0) s.errors })

/-- The totals are modular counts of 64 bits. -/
def countValue (n : Nat) : Float := Decimal.ofNat (n % (Decimal.maxU64 + 1))

def single (stem help : String) (kind : Kind) (value : Float) : Family :=
  ⟨Naming.join Naming.root "exporter" stem, help, kind, [⟨[], .scalar value⟩]⟩

/-- The totals as families, by name. Failures are shown once there is a scraper to show. -/
def gather (s : ScrapeStats) : List Family :=
  let last := single "last_scrape_error"
    ("Whether the last scrape of metrics from MySQL resulted in an error " ++
      "(1 for error, 0 for success).")
    .gauge (Decimal.ofNat (if s.lastFailed then 1 else 0))
  let failures : Family :=
    { name := Naming.join Naming.root "exporter" "scrape_errors_total"
      help := "Total number of times an error occurred scraping a MySQL."
      kind := .counter
      metrics :=
        s.errors.map fun (scraper, n) => ⟨[("collector", scraper)], .scalar (countValue n)⟩ }
  let total := single "scrapes_total" "Total number of times MySQL was scraped for metrics."
    .counter (countValue s.scrapes)
  if s.errors.isEmpty then [last, total] else [last, failures, total]

end ScrapeStats
end MysqlMetrics
