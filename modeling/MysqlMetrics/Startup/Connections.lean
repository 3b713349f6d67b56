import MysqlMetrics.Connection.Dsn
import MysqlMetrics.Connection.OptionFile
import MysqlMetrics.Connection.Pools
import MysqlMetrics.Connection.Targets
import MysqlMetrics.Files
import MysqlMetrics.Options
import MysqlMetrics.Path
/-!
# Where the program connects

The default connection comes from a data source name or, without one, from the option file and the
environment; without a user there is none. Targets come from their own file. A program that could
connect nowhere is not started.
-/
namespace MysqlMetrics.Startup

inductive ConnectionError where
  | dsn
  | optionFile (path : String) (cause : PortError)
  | targets (cause : TargetsError)
  | noCredentials
deriving DecidableEq, Repr

def ConnectionError.message : ConnectionError → String
  | .dsn => "invalid --dsn / MYSQLD_EXPORTER_DSN"
  | .optionFile path _ => "failed to parse " ++ path
  | .targets cause => cause.message
  | .noCredentials =>
    "no MySQL credentials: use --dsn, MYSQLD_EXPORTER_DSN, --config.my-cnf or --config.file"

/-- The settings of an option file; one that is no regular file has none. -/
def loadOptionFile (files : Files) (path : String) : Except ConnectionError ClientConfig :=
  match files.regular? path with
  | none => .ok {}
  | some content => (ClientConfig.parse content).mapError (ConnectionError.optionFile path)

def defaultConnection (env : Environment) (files : Files) (options : Options)
    (dsn : Option String) : Except ConnectionError (Option ConnectOptions) :=
  match dsn with
  | some name =>
    match Dsn.parse name with
    | some o => .ok (some o)
    | none => .error .dsn
  | none => do
    let client ← loadOptionFile files (Path.expandHome env options.myCnf)
    let client := client.withEnvironment env
    return if client.isUsable then some client.connectOptions else none

def loadTargets (files : Files) (path : String) :
    Except ConnectionError (SortedTable String ConnectOptions) :=
  match files.read path with
  | .error e => .error (.targets (.unreadable path e.message))
  | .ok content =>
    ((Targets.parse path content).bind Targets.connectOptions).mapError ConnectionError.targets

def poolSettings (o : Options) : PoolSettings :=
  ⟨o.maxConnections, o.connectTimeout, o.lockWaitTimeout, o.logSlowFilter⟩

/-- The pools that a run of the program connects by, none of them made yet. -/
def pools (env : Environment) (files : Files) (options : Options) (dsn : Option String) :
    Except ConnectionError Pools := do
  let default ← defaultConnection env files options dsn
  let targets ← match options.configFile with
    | some path => loadTargets files path
    | none => pure []
  if default.isNone && targets.isEmpty then throw ConnectionError.noCredentials
  else return { default := default, targets := targets, settings := poolSettings options }

end MysqlMetrics.Startup
