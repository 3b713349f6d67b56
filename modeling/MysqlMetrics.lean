import MysqlMetrics.Main
import MysqlMetrics.Proofs.Argument.Calls
import MysqlMetrics.Proofs.Channel
import MysqlMetrics.Proofs.Collector.LabelNames
import MysqlMetrics.Proofs.Collector.MetricNames
import MysqlMetrics.Proofs.Collector.ResponseTime
import MysqlMetrics.Proofs.Collector.Selections
import MysqlMetrics.Proofs.Collector.Shared
import MysqlMetrics.Proofs.Collector.StateLabels
import MysqlMetrics.Proofs.Collector.Success
import MysqlMetrics.Proofs.Collector.Variables
import MysqlMetrics.Proofs.Connection.Alone
import MysqlMetrics.Proofs.Connection.Assignments
import MysqlMetrics.Proofs.Connection.Encryption
import MysqlMetrics.Proofs.Families.Grouped
import MysqlMetrics.Proofs.Http.Deadlines
import MysqlMetrics.Proofs.Http.Landing
import MysqlMetrics.Proofs.Http.Query
import MysqlMetrics.Proofs.Http.Route
import MysqlMetrics.Proofs.Http.Traffic
import MysqlMetrics.Proofs.Naming.Stem
import MysqlMetrics.Proofs.Path
import MysqlMetrics.Proofs.Registry.Applied
import MysqlMetrics.Proofs.Registry.History
import MysqlMetrics.Proofs.Registry.Refused
import MysqlMetrics.Proofs.Row.LabelRule
import MysqlMetrics.Proofs.Scrape.Isolation
import MysqlMetrics.Proofs.Scrape.Totals
import MysqlMetrics.Proofs.Server.Announcement
import MysqlMetrics.Proofs.Startup.Headers
