import MysqlMetrics.Connection.Options
import MysqlMetrics.Connection.Settings
import MysqlMetrics.Exporter
/-!
# Pools of connections

One pool for each target that was asked for, made when it is first needed and kept until all are
closed. A pool asks its server for the version once. Without a target the default options are used;
their pool goes by the empty name.
-/
namespace MysqlMetrics

/-! ## What is out there -/

/-- A server as a new connection finds it. -/
structure Host where
  /-- Does it let the user in? -/
  isOpen : Bool := true
  /-- What it says to the question for its version, unless it refuses. -/
  version : Option String
  database : Database

/-- What stands at the place that connection options name, if anything does. -/
abbrev Network := ConnectOptions → Option Host

/-! ## Pools -/

structure Pool where
  /-- Tells the pool from others of its name. -/
  serial : Nat
  options : ConnectOptions
  /-- Does the pool hold a connection? -/
  isLive : Bool := false
  info : Option ServerInfo := none

structure Pools where
  default : Option ConnectOptions
  targets : SortedTable String ConnectOptions
  settings : PoolSettings
  cached : SortedTable String Pool := []
  /-- How many pools have been made. -/
  made : Nat := 0
  /-- Was a session ever started? -/
  hasSession : Bool := false

inductive AcquireError where
  | unknownTarget (name : String)
  | noDefault
  | connect
  | version
deriving DecidableEq, Repr

def AcquireError.message : AcquireError → String
  | .unknownTarget name => "unknown target: " ++ name
  | .noDefault => "no default connection configured, a target is required"
  | .connect => "failed to connect to database"
  | .version => "failed to read server version"

namespace Pools

def hasDefault (p : Pools) : Bool := p.default.isSome

def targetNames (p : Pools) : List String := SortedTable.keys p.targets

/-- The name of the pool for a target. -/
def key (target : Option String) : String := target.getD ""

def cached? (p : Pools) (target : Option String) : Option Pool :=
  SortedTable.find? (key target) p.cached

def optionsFor (p : Pools) : Option String → Except AcquireError ConnectOptions
  | some name =>
    match SortedTable.find? name p.targets with
    | some o => .ok o
    | none => .error (.unknownTarget name)
  | none =>
    match p.default with
    | some o => .ok o
    | none => .error .noDefault

/-- Keeps a new pool for a target, unless one has been kept meanwhile. -/
def install (p : Pools) (target : Option String) (options : ConnectOptions) : Pool × Pools :=
  match p.cached? target with
  | some pool => (pool, p)
  | none =>
    let pool : Pool := { serial := p.made, options := options }
    (pool, { p with cached := SortedTable.insert (key target) pool p.cached, made := p.made + 1 })

/-- The pool for a target, made if there is none yet. -/
def enter (p : Pools) (target : Option String) : Except AcquireError Pool × Pools :=
  match p.cached? target with
  | some pool => (.ok pool, p)
  | none =>
    match p.optionsFor target with
    | .error e => (.error e, p)
    | .ok options => let (pool, p) := p.install target options; (.ok pool, p)

def update (p : Pools) (target : Option String) (pool : Pool) : Pools :=
  { p with cached := SortedTable.adjust (key target) (fun _ => pool) p.cached }

/-- A connection of the pool: one that it holds, or a new one, with a session of its own. -/
def connect (net : Network) (p : Pools) (target : Option String) (pool : Pool) :
    Option (Host × Pool × Pools) :=
  match net pool.options with
  | none => none
  | some host =>
    if pool.isLive then some (host, pool, p)
    else if host.isOpen then
      let pool := { pool with isLive := true }
      some (host, pool, { p with hasSession := true }.update target pool)
    else none

/-- A server for a target. Its version is asked for once in the life of the pool. -/
def acquire (net : Network) (p : Pools) (target : Option String) :
    Except AcquireError Server × Pools :=
  match p.enter target with
  | (.error e, p) => (.error e, p)
  | (.ok pool, p) =>
    match p.connect net target pool with
    | none => (.error .connect, p)
    | some (host, pool, p) =>
      match pool.info, host.version with
      | some info, _ => (.ok ⟨info, host.database⟩, p)
      | none, none => (.error .version, p)
      | none, some text =>
        let info := ServerInfo.parse text
        (.ok ⟨info, host.database⟩, p.update target { pool with info := some info })

def close (p : Pools) : Pools := { p with cached := [] }

/-- The pools as a way to reach servers. -/
def connector (net : Network) (targets : List String) : Connector Pools where
  hasTarget name := targets.contains name
  acquire target p :=
    let (result, p) := p.acquire net target
    ({ server := result.toOption }, p)

end Pools
end MysqlMetrics
