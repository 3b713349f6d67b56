import MysqlMetrics.Duration
/-!
# Options of the exporter

What the command line fixes for the whole process. A caller may ask for a shorter scrape: from the
time it allows, an offset is taken off to leave room for the answer, unless nothing would be left.
-/
namespace MysqlMetrics

structure Options where
  scrapeTimeout : Duration := Duration.ofSeconds 10
  /-- Taken off the time that a caller allows. -/
  timeoutOffset : Duration := Duration.ofMillis 250
  connectTimeout : Duration := Duration.ofSeconds 5
  lockWaitTimeout : Nat := 2
  logSlowFilter : Bool := false
  maxConnections : Nat := 3
  listenAddress : String := ":9104"
  telemetryPath : String := "/metrics"
  myCnf : String := "~/.my.cnf"
  configFile : Option String := none
  webConfigFile : Option String := none
deriving DecidableEq, Repr, Inhabited

namespace Options

/-- The span that a caller's number of seconds stands for, if it is positive and in range. -/
def allowed (supplied : Option Float) : Option Duration :=
  (supplied.filter fun x => Decimal.ofNat 0 < x).bind fun x => (Duration.trySeconds x).toOption

/-- The time that a scrape may take. -/
def effectiveTimeout (o : Options) (supplied : Option Float) : Duration :=
  match allowed supplied with
  | none => o.scrapeTimeout
  | some d => if o.timeoutOffset.nanos < d.nanos then ⟨d.nanos - o.timeoutOffset.nanos⟩ else d

end Options
end MysqlMetrics
