import MysqlMetrics.Connection.Pools
/-!
# Calls on the same pools

Acquires and closes come in any number and go on in turns, each from one wait to the next. An
acquire looks for the pool of its target. If there is none it learns with which options to make one,
and keeps it in a later turn, unless another call has kept one meanwhile. With its pool it waits for
a connection and then, if nobody has asked before, for the version of the server. A close takes all
pools away at once, and closes one after the other while calls may still hold them. A call may be
given up wherever it waits, and what a connection finds may be another thing at every turn.

One acquire alone goes the way of `Pools.acquire`, and one close that of `Pools.close`.
-/
namespace MysqlMetrics

/-- What an acquire gives: the serial of its pool, and the server behind it. -/
structure Instance where
  pool : Nat
  server : Server

/-- How far an acquire has come. -/
inductive Acquiring where
  | begun
  /-- It has found no pool, and waits to keep one with these options. -/
  | missed (options : ConnectOptions)
  /-- It has taken the pool of this serial, and waits for a connection. -/
  | holding (serial : Nat)
  /-- It has had a connection, and waits to know the version. -/
  | connected (serial : Nat) (host : Host)
  | answered (result : Except AcquireError Instance)
  | abandoned

/-- How far a close has come. -/
inductive Closing where
  | begun
  /-- It has taken all pools away, and has still to close these. -/
  | emptied (serials : List Nat)
  | abandoned

inductive Call where
  | acquire (target : Option String) (stage : Acquiring)
  | close (stage : Closing)

/-- What a call does in its turn. -/
inductive Call.Move where
  | look
  | keep
  | connect (net : Network)
  | ask (net : Network)
  | empty
  | shut (serial : Nat)
  | leave

inductive PoolEvent where
  /-- A call took the pool of a serial for its target; the pool was made with these options. -/
  | took (call : Nat) (target : Option String) (serial : Nat) (options : ConnectOptions)
  | emptied
deriving DecidableEq

/-- What calls have in common. -/
structure SharedPools where
  pools : Pools
  /-- The pools that have been taken away; calls may still hold them. -/
  removed : List Pool := []
  /-- The serials of the pools that have been closed. -/
  closed : List Nat := []
  /-- What has happened, the latest first. -/
  log : List PoolEvent := []

namespace SharedPools

def pool? (s : SharedPools) (serial : Nat) : Option Pool :=
  (SortedTable.values s.pools.cached ++ s.removed).find? (·.serial = serial)

/-- Changes the pool of a serial, wherever it is. -/
def alter (s : SharedPools) (serial : Nat) (f : Pool → Pool) : SharedPools :=
  let change := fun pool : Pool => if pool.serial = serial then f pool else pool
  { s with
    pools := { s.pools with cached := s.pools.cached.map fun p => (p.1, change p.2) }
    removed := s.removed.map change }

/-- A call takes a pool for its target. -/
def take (s : SharedPools) (call : Nat) (target : Option String) (pool : Pool) : SharedPools :=
  { s with log := .took call target pool.serial pool.options :: s.log }

/-- A session was started. -/
def started (s : SharedPools) : SharedPools :=
  { s with pools := { s.pools with hasSession := true } }

/-- A connection of the pool, unless it has been closed. -/
def connect (net : Network) (s : SharedPools) (pool : Pool) : Option (Host × SharedPools) :=
  if s.closed.contains pool.serial then none
  else
    match net pool.options with
    | none => none
    | some host =>
      if pool.isLive then some (host, s)
      else if host.isOpen then
        some (host, s.started.alter pool.serial fun q => { q with isLive := true })
      else none

/-- What the pool knows of its server, or learns from it. -/
def discover (net : Network) (s : SharedPools) (pool : Pool) : Option (ServerInfo × SharedPools) :=
  match pool.info with
  | some info => some (info, s)
  | none =>
    if s.closed.contains pool.serial then none
    else
      ((net pool.options).bind (·.version)).map fun text =>
        let info := ServerInfo.parse text
        (info, s.alter pool.serial fun q => { q with info := some info })

/-- All pools are taken away. -/
def empty (s : SharedPools) : SharedPools :=
  { s with
    pools := s.pools.close
    removed := s.removed ++ SortedTable.values s.pools.cached
    log := .emptied :: s.log }

end SharedPools

namespace Acquiring

/-- How far a move takes an acquire of a target, and what it leaves, if the acquire can make it.
`call` is its number. -/
def step (call : Nat) (target : Option String) (s : SharedPools) :
    Acquiring → Call.Move → Option (Acquiring × SharedPools)
  | .begun, .look =>
    match s.pools.cached? target with
    | some pool => some (.holding pool.serial, s.take call target pool)
    | none =>
      match s.pools.optionsFor target with
      | .error e => some (.answered (.error e), s)
      | .ok options => some (.missed options, s)
  | .missed options, .keep =>
    let (pool, p) := s.pools.install target options
    some (.holding pool.serial, { s with pools := p }.take call target pool)
  | .holding serial, .connect net =>
    (s.pool? serial).map fun pool =>
      match s.connect net pool with
      | none => (.answered (.error .connect), s)
      | some (host, s) =>
        match pool.info with
        | some info => (.answered (.ok ⟨serial, ⟨info, host.database⟩⟩), s)
        | none => (.connected serial host, s)
  | .connected serial host, .ask net =>
    (s.pool? serial).map fun pool =>
      match s.discover net pool with
      | none => (.answered (.error .version), s)
      | some (info, s) => (.answered (.ok ⟨serial, ⟨info, host.database⟩⟩), s)
  | .begun, .leave | .missed _, .leave | .holding _, .leave | .connected _ _, .leave =>
    some (.abandoned, s)
  | _, _ => none

end Acquiring

namespace Closing

def step (s : SharedPools) : Closing → Call.Move → Option (Closing × SharedPools)
  | .begun, .empty =>
    some (.emptied ((SortedTable.values s.pools.cached).map (·.serial)), s.empty)
  | .emptied serials, .shut serial =>
    if serial ∈ serials then
      some (.emptied (serials.erase serial), { s with closed := serial :: s.closed })
    else none
  | .begun, .leave | .emptied _, .leave => some (.abandoned, s)
  | _, _ => none

end Closing

def Call.step (call : Nat) (s : SharedPools) : Call → Call.Move → Option (Call × SharedPools)
  | .acquire target stage, move =>
    (stage.step call target s move).map fun (stage, s) => (.acquire target stage, s)
  | .close stage, move => (stage.step s move).map fun (stage, s) => (.close stage, s)

/-- What is asked of the pools. -/
inductive Wish where
  | acquire (target : Option String)
  | close
deriving DecidableEq, Repr

def Wish.call : Wish → Call
  | .acquire target => .acquire target .begun
  | .close => .close .begun

structure Calls where
  shared : SharedPools
  calls : List Call

namespace Calls

/-- Calls on pools that nobody has used. -/
def new (default : Option ConnectOptions) (targets : SortedTable String ConnectOptions)
    (settings : PoolSettings) (wishes : List Wish) : Calls where
  shared := { pools := { default := default, targets := targets, settings := settings } }
  calls := wishes.map Wish.call

/-- The turn of a call, if it can make the move. -/
def step (t : Calls) (i : Nat) (move : Call.Move) : Option Calls :=
  t.calls[i]?.bind fun call =>
    (call.step i t.shared move).map fun (call, s) => ⟨s, t.calls.set i call⟩

/-- What turns lead to. -/
inductive Reaches (t : Calls) : Calls → Prop
  | refl : Reaches t t
  | turn {t₁ t₂ : Calls} (i : Nat) (move : Call.Move) (h : Reaches t t₁)
    (hs : t₁.step i move = some t₂) : Reaches t t₂

end Calls
end MysqlMetrics
