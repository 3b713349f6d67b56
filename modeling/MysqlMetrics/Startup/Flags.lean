import MysqlMetrics.CommandLine
/-!
# Flags of the program

The flags that do not belong to a scraper. Most can also be given by a variable of the environment.
-/
namespace MysqlMetrics.Startup

open CommandLine (Flag Reader)

/-- An option that can be given by a variable, too. -/
def setting (name help envName : String) (reader : Reader) (default : Option String) : Flag :=
  { name := name, help := help, action := .value reader false, fromEnv := some envName
    default := default }

def globalFlags : List Flag :=
  [setting "web.listen-address" "Address on which to expose metrics and web interface"
      "MYSQLD_EXPORTER_LISTEN_ADDRESS" .text (some ":9104"),
    setting "web.telemetry-path" "Path under which to expose metrics"
      "MYSQLD_EXPORTER_TELEMETRY_PATH" .text (some "/metrics"),
    setting "web.config-file" ("Path to a web configuration file with basic auth users and " ++
        "response headers (TLS is not supported)")
      "MYSQLD_EXPORTER_WEB_CONFIG_FILE" .path none,
    setting "config.my-cnf" "Path to .my.cnf file to read MySQL credentials from"
      "MYSQLD_EXPORTER_MY_CNF" .text (some "~/.my.cnf"),
    setting "config.file" "Path to a YAML file describing named instances for multi-target scraping"
      "MYSQLD_EXPORTER_CONFIG_FILE" .path none,
    setting "dsn" "MySQL connection string, overrides the credentials of --config.my-cnf"
      "MYSQLD_EXPORTER_DSN" .text none,
    setting "scrape-timeout" "Scrape deadline in seconds when Prometheus does not send one"
      "MYSQLD_EXPORTER_SCRAPE_TIMEOUT" .real (some "10"),
    setting "timeout-offset" "Seconds subtracted from the Prometheus scrape timeout"
      "MYSQLD_EXPORTER_TIMEOUT_OFFSET" .real (some "0.25"),
    setting "connect-timeout" "Seconds to wait for a database connection"
      "MYSQLD_EXPORTER_CONNECT_TIMEOUT" .real (some "5"),
    { name := "exporter.lock_wait_timeout"
      help :=
        "Set a lock_wait_timeout (in seconds) on the connection to avoid long metadata locking"
      action := .value .natural false
      default := some "2" },
    { name := "exporter.log_slow_filter"
      help :=
        "Add a log_slow_filter to avoid slow query logging of scrapes (MariaDB and Percona only)"
      action := .switch none },
    setting "exporter.max-connections"
      "Maximum number of open connections to the database per instance"
      "MYSQLD_EXPORTER_MAX_CONNECTIONS" .count (some "3"),
    setting "log.format" "Output format of log messages"
      "MYSQLD_EXPORTER_LOG_FORMAT" (.oneOf ["text", "json"]) (some "text"),
    { name := "verbose"
      short := some 'v'
      help := "Increase verbosity, -vv for debug"
      action := .counter }]

/-- The command of the program, with the flags of its scrapers. -/
def command (scraperFlags : List Flag) : CommandLine.Command :=
  { flags := globalFlags ++ scraperFlags, hasVersion := true }

end MysqlMetrics.Startup
