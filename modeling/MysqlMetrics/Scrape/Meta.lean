import MysqlMetrics.Duration
import MysqlMetrics.Metric.Sample
import MysqlMetrics.Naming
/-!
# Samples about a scrape

Every scrape says whether the server is up, and of each scraper that ran how long it took and
whether it succeeded.
-/
namespace MysqlMetrics.Meta

def upDesc : Desc :=
  ⟨Naming.join Naming.root "" "up", "Whether the MySQL server is up.", .gauge, [], []⟩

def durationDesc : Desc :=
  ⟨Naming.join Naming.root "scrape" "collector_duration_seconds", "Collector time duration.",
    .gauge, ["collector"], []⟩

def successDesc : Desc :=
  ⟨Naming.join Naming.root "scrape" "collector_success", "Whether a collector succeeded.", .gauge,
    ["collector"], []⟩

/-- One for true, zero for false. -/
def flag (b : Bool) : Float := Decimal.ofNat (if b then 1 else 0)

def up (isUp : Bool) : Sample := ⟨upDesc, [], .scalar (flag isUp)⟩

/-- The two samples about a scraper that ran for so many milliseconds. -/
def report (scraper : String) (millis : Nat) (ok : Bool) : List Sample :=
  [⟨durationDesc, [scraper], .scalar (Duration.ofMillis millis).toSeconds⟩,
    ⟨successDesc, [scraper], .scalar (flag ok)⟩]

end MysqlMetrics.Meta
