import MysqlMetrics.Files
import MysqlMetrics.Http.WebConfig
import MysqlMetrics.Options
import MysqlMetrics.Registry
/-!
# What the command line sets up

The command line becomes options, a web configuration and a registry that is ready. Faults are
looked for in this order: spans of time, the web file, the path of the metrics, the arguments of
scrapers. Up to the last of them the registry stays as it was.
-/
namespace MysqlMetrics.Startup

inductive LogFormat where
  | text
  | json
deriving DecidableEq, Repr

def LogFormat.title : LogFormat → String
  | .text => "Text"
  | .json => "Json"

/-- Any name but that of the other format means text. -/
def LogFormat.ofName (name : String) : LogFormat :=
  if Text.sameIgnoringCase name "json" then .json else .text

inductive SetupError where
  | duration (flag : String) (value : Float) (cause : Duration.OfSecondsError)
  | webFileMissing (path : String)
  | webFile (path : String) (cause : WebError)
  | telemetryPath (path : String)
  | registry (cause : RegistryError)

def SetupError.message : SetupError → String
  | .duration flag value cause =>
    "invalid duration for --" ++ flag ++ ": " ++ Decimal.write value ++ " (" ++ cause.message ++ ")"
  | .webFileMissing path => "web config file " ++ path ++ " does not exist"
  | .webFile path _ => "invalid web config file " ++ path
  | .telemetryPath path =>
    "invalid telemetry path " ++ Text.quoted path ++ ": must start with '/' and not be /health"
  | .registry cause => cause.message

/-- All that a run of the program goes by. -/
structure Setup where
  options : Options
  applied : Applied
  dsn : Option String
  web : Option WebConfig
  logFormat : LogFormat
  verbosity : Nat
deriving Repr

/-- The span of time that a flag gives in seconds. -/
def seconds (m : CommandLine.Matches) (flag : String) (default : Duration) :
    Except SetupError Duration :=
  match m.real? flag with
  | none => .ok default
  | some x => (Duration.trySeconds x).mapError (SetupError.duration flag x)

def optionsOf (m : CommandLine.Matches) : Except SetupError Options := do
  let d : Options := {}
  let scrapeTimeout ← seconds m "scrape-timeout" d.scrapeTimeout
  let timeoutOffset ← seconds m "timeout-offset" d.timeoutOffset
  let connectTimeout ← seconds m "connect-timeout" d.connectTimeout
  return {
    scrapeTimeout := scrapeTimeout
    timeoutOffset := timeoutOffset
    connectTimeout := connectTimeout
    lockWaitTimeout := ((m.int? "exporter.lock_wait_timeout").map Int.toNat).getD d.lockWaitTimeout
    logSlowFilter := m.isSet "exporter.log_slow_filter"
    maxConnections := ((m.int? "exporter.max-connections").map Int.toNat).getD d.maxConnections
    listenAddress := (m.text? "web.listen-address").getD d.listenAddress
    telemetryPath := (m.text? "web.telemetry-path").getD d.telemetryPath
    myCnf := (m.text? "config.my-cnf").getD d.myCnf
    configFile := m.text? "config.file"
    webConfigFile := m.text? "web.config-file" }

def loadWeb (files : Files) (path : String) : Except SetupError WebConfig :=
  match files.regular? path with
  | none => .error (.webFileMissing path)
  | some content => (WebConfig.parse content).mapError (SetupError.webFile path)

/-- The metrics have a path of their own. -/
def isTelemetryPath (path : String) : Bool := path.startsWith "/" && path != "/health"

/-- The options and the web configuration of a command line. -/
def settings (files : Files) (m : CommandLine.Matches) :
    Except SetupError (Options × Option WebConfig) := do
  let options ← optionsOf m
  let web ← options.webConfigFile.mapM (loadWeb files)
  if isTelemetryPath options.telemetryPath then return (options, web)
  else throw (SetupError.telemetryPath options.telemetryPath)

/-- Sets the program up. A blank data source name is none. -/
def setup (files : Files) (m : CommandLine.Matches) (r : Registry) :
    Except SetupError Setup × Registry :=
  match settings files m with
  | .error e => (.error e, r)
  | .ok (options, web) =>
    match r.onParsed m with
    | (.error e, r) => (.error (.registry e), r)
    | (.ok applied, r) =>
      (.ok {
        options := options
        applied := applied
        dsn := (m.text? "dsn").filter fun s => !(Text.trim s).isEmpty
        web := web
        logFormat := ((m.text? "log.format").map LogFormat.ofName).getD .text
        verbosity := ((m.int? "verbose").map Int.toNat).getD 0 }, r)

end MysqlMetrics.Startup
