import MysqlMetrics.Http.Service
import MysqlMetrics.Listen
import MysqlMetrics.Startup.Connections
import MysqlMetrics.Startup.Flags
import MysqlMetrics.Startup.Setup
import MysqlMetrics.Startup.Telemetry
/-!
# The start of the program

Before it serves, the program reads its command line, readies the export of spans, sets itself up,
finds out where to connect, tries the default connection, which decides nothing, and binds its
address. The first fault ends it.
-/
namespace MysqlMetrics.Startup

/-- What comes before serving. -/
inductive Fault where
  | flags (cause : RegistryError)
  | commandLine (cause : CommandLine.Refusal)
  | telemetry (cause : TelemetryError)
  | setup (cause : SetupError)
  | connections (cause : ConnectionError)
  | route (cause : RouteError)
  | listen (cause : Listen.ListenError)

/-- The code with which the program ends. A path that no route can have breaks it off. -/
def Fault.exitCode : Fault → Nat
  | .commandLine cause => cause.exitCode
  | .route _ => 101
  | _ => 1

/-- What the program says of a fault, if it reports it as one. -/
def Fault.message? : Fault → Option String
  | .commandLine _ | .route _ => none
  | .flags cause => some cause.message
  | .telemetry cause => some cause.message
  | .setup cause => some cause.message
  | .connections cause => some cause.message
  | .listen cause => some cause.message

/-- A program that is ready to serve. -/
structure Launch where
  setup : Setup
  registry : Registry
  pools : Pools
  router : Router
  /-- The host and port to listen on. -/
  address : String × Nat

/-- Starts the program, in an environment and a network, with the scrapers of a registry. -/
def launch (env : Environment) (files : Files) (net : Network) (r : Registry)
    (argv : List String) : Except Fault Launch := do
  let (flags, r) ← r.init.mapError Fault.flags
  let m ← (CommandLine.parse (command flags) env argv).mapError Fault.commandLine
  (telemetry env).mapError Fault.telemetry
  let (set, r) := setup files m r
  let set ← set.mapError Fault.setup
  let pools ← (pools env files set.options set.dsn).mapError Fault.connections
  let pools := if pools.hasDefault then (pools.acquire net none).2 else pools
  let router ← (Router.build set.options.telemetryPath).mapError Fault.route
  let address ← (Listen.resolve set.options.listenAddress).mapError Fault.listen
  return ⟨set, r, pools, router, address⟩

/-- The variables that the program looks at. -/
def variableNames : List String :=
  globalFlags.filterMap (·.fromEnv) ++
    ["HOME", "MYSQL_USER", "MYSQL_PWD", "MYSQL_HOST", "MYSQL_TCP_PORT", "MYSQL_UNIX_PORT",
      "OTEL_EXPORTER_OTLP_ENDPOINT", "OTEL_EXPORTER_OTLP_HEADERS"]

/-- The paths of the files that a command line may read. -/
def filePaths (env : Environment) (m : CommandLine.Matches) : List String :=
  ["web.config-file", "config.file"].filterMap m.text? ++
    (m.text? "config.my-cnf").toList.map (Path.expandHome env)

namespace Launch

def bullets (items : List String) : String := "\n".intercalate (items.map ("  - " ++ ·))

/-- What the program says when it begins to serve. -/
def banner (l : Launch) : String :=
  Program.name ++ " " ++ Program.version ++ " - Listening on " ++ l.address.1 ++ ":" ++
    toString l.address.2 ++ l.setup.options.telemetryPath ++ "\n\nEnabled collectors:\n" ++
    bullets l.setup.applied.enabled ++ "\n" ++
    if l.pools.targets.isEmpty then "" else "\nTargets:\n" ++ bullets l.pools.targetNames ++ "\n"

def service (l : Launch) (net : Network) (commit : String) : Service Pools :=
  ⟨l.setup.options, l.router, Pools.connector net l.pools.targetNames, commit⟩

/-- What the first request finds. -/
def serving (l : Launch) : Serving Pools :=
  { exporter := .new l.registry, guard := l.setup.web.map Guard.new, world := l.pools }

end Launch
end MysqlMetrics.Startup
