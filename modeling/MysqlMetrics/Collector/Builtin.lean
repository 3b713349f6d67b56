import MysqlMetrics.Collector.BinaryLogs
import MysqlMetrics.Collector.FileEvents
import MysqlMetrics.Collector.GlobalStatus
import MysqlMetrics.Collector.GlobalVariables
import MysqlMetrics.Collector.GroupMembers
import MysqlMetrics.Collector.Heartbeat
import MysqlMetrics.Collector.PageCompression
import MysqlMetrics.Collector.Processlist
import MysqlMetrics.Collector.ReplicaStatus
import MysqlMetrics.Collector.ResponseTime
import MysqlMetrics.Collector.SelfUsage
import MysqlMetrics.Collector.StatementDigests
import MysqlMetrics.Collector.TableSizes
import MysqlMetrics.Collector.TableStatistics
import MysqlMetrics.Registry
/-!
# The built-in scrapers

Every scraper that the exporter comes with, and whether it runs unless told otherwise.
-/
namespace MysqlMetrics.Collector

/-- The built-in scrapers with their default state. -/
def builtin (usage : SelfUsage.Usage) : List (Scraper × Bool) :=
  [(GlobalStatus.scraper, true), (GlobalVariables.scraper, true), (BinaryLogs.scraper, false),
   (ReplicaStatus.scraper, true), (Heartbeat.scraper, false), (Processlist.scraper, false),
   (TableSizes.scraper, false), (PageCompression.scraper, true), (ResponseTime.scraper, true),
   (TableStatistics.scraper, false), (StatementDigests.scraper, false),
   (FileEvents.scraper, false), (GroupMembers.scraper, false),
   (SelfUsage.processScraper usage, true), (SelfUsage.workerScraper usage, true)]

/-- A registry with some scrapers; one that cannot be registered is left out. -/
def registryOf (scrapers : List (Scraper × Bool)) : Registry :=
  scrapers.foldl (fun r (s, enabled) =>
    match r.register s enabled with
    | .ok r => r
    | .error _ => r) Registry.empty

/-- The registry of the built-in scrapers, whose names are valid and distinct. -/
def defaultRegistry (usage : SelfUsage.Usage) : Registry := registryOf (builtin usage)

end MysqlMetrics.Collector
