import MysqlMetrics.Duration
/-!
# Settings of a connection pool

How many connections a pool may hold, how long a connection may take, and what every new session
is told first.
-/
namespace MysqlMetrics

structure PoolSettings where
  maxConnections : Nat := 3
  connectTimeout : Duration := Duration.ofSeconds 5
  lockWaitTimeout : Nat := 2
  logSlowFilter : Bool := false
deriving DecidableEq, Repr, Inhabited

/-- The statements that a new session starts with. -/
def PoolSettings.sessionSql (s : PoolSettings) : String :=
  "SET SESSION lock_wait_timeout = " ++ toString s.lockWaitTimeout ++
    if s.logSlowFilter then
      "; SET SESSION log_slow_filter = 'tmp_table_on_disk,filesort_on_disk'"
    else ""

end MysqlMetrics
