import MysqlMetrics.Decimal.Reading
import MysqlMetrics.Exporter
import MysqlMetrics.Http.Guard
import MysqlMetrics.Http.Landing
import MysqlMetrics.Http.Query
import MysqlMetrics.Http.Route
import MysqlMetrics.Metric.Exposition
import MysqlMetrics.Options
/-!
# The service

Three routes: the metrics, under a path of choice, the health of the default connection, and a
landing page, unless the metrics stand in its place. A path without a route is not found; a method
that a route does not know is answered with the methods that it knows.
-/
namespace MysqlMetrics

inductive Handler where
  | metrics
  | health
  | landing
deriving DecidableEq, Repr

/-- Where a request goes. -/
inductive Destination where
  | handler (h : Handler)
  | wrongMethod (allowed : String)
  | nowhere
deriving DecidableEq, Repr

namespace Handler

def methods : Handler → List String
  | .health => ["GET", "HEAD", "OPTIONS"]
  | _ => ["GET", "HEAD"]

end Handler

/-- The routes with fixed paths come first. -/
structure Router where
  fixed : List (String × Handler)
  metrics : List Piece
deriving DecidableEq, Repr

namespace Router

/-- The routes for a path of the metrics, unless they cannot be told apart. -/
def build (telemetryPath : String) : Except RouteError Router :=
  match Route.parse telemetryPath with
  | .error e => .error e
  | .ok pieces =>
    if telemetryPath = "/health" then .error (.overlap telemetryPath)
    else if telemetryPath = "/" then .ok ⟨[("/health", .health)], pieces⟩
    else .ok ⟨[("/health", .health), ("/", .landing)], pieces⟩

def handler? (r : Router) (path : String) : Option Handler :=
  match r.fixed.lookup path with
  | some h => some h
  | none => if Route.fits r.metrics path.toList then some .metrics else none

def route (r : Router) (method path : String) : Destination :=
  match r.handler? path with
  | none => .nowhere
  | some h =>
    if h.methods.contains method then .handler h else .wrongMethod (",".intercalate h.methods)

end Router

/-! ## Serving -/

/-- What does not change while the program runs. -/
structure Service (σ : Type) where
  options : Options
  router : Router
  connector : Connector σ
  /-- The revision that the program was built from. -/
  commit : String

/-- What a request finds and leaves; moments are in milliseconds. -/
structure Serving (σ : Type) where
  exporter : Exporter
  guard : Option Guard
  world : σ
  now : Nat := 0
  /-- The scrapers that ran, in order. -/
  executed : List String := []

/-- An answer, or the message with which its handler broke off. -/
inductive Reply where
  | response (r : Response)
  | panicked (message : String)
deriving DecidableEq, Repr

namespace Service

variable {σ : Type}

/-- The seconds that the caller allows for a scrape. -/
def allowedSeconds (r : Request) : Option Float :=
  (r.headerText? "x-prometheus-scrape-timeout-seconds").bind fun v => Decimal.read (Text.trim v)

def textResponse (status : Nat) (body : String) : Response :=
  ⟨status, [("content-type", "text/plain; version=0.0.4")], body⟩

/-- The answer to what came of a scrape. -/
def metricsReply : ScrapeResult → Reply
  | .panicked m => .panicked m
  | .refused e => .response (textResponse 400 (e.message ++ "\n"))
  | .families fs =>
    match Exposition.render fs with
    | .ok text => .response (textResponse 200 text)
    | .error .refused =>
      .response (textResponse 500
        ("Error encoding metrics: " ++ Exposition.EncodeError.refused.message ++ "\n"))
    | .error .unsupported => .panicked Exposition.EncodeError.unsupported.message

/-- The scrape that a request asks for. -/
def scrapeRequest (options : Options) (r : Request) : ScrapeRequest :=
  let q := ScrapeQuery.parse r.query
  { collect := q.collect, target := q.target
    timeout := options.effectiveTimeout (allowedSeconds r) }

def metrics (s : Service σ) (r : Request) (st : Serving σ) : Reply × Serving σ :=
  let out := st.exporter.scrape s.connector st.world st.now (scrapeRequest s.options r)
  (metricsReply out.result,
    { st with
      exporter := out.exporter, world := out.world, now := out.now
      executed := st.executed ++ out.executed })

/-- Says whether the default connection can be had in time. Only `GET` is told in words. -/
def health (s : Service σ) (r : Request) (st : Serving σ) : Reply × Serving σ :=
  let (attempt, world) := s.connector.acquire none st.world
  let limit := s.options.connectTimeout.ceilMillis
  let isUp := attempt.delay ≤ limit && attempt.server.isSome
  let body :=
    "\x7b\"commit\":\"" ++ s.commit ++ "\",\"name\":\"" ++ Program.name ++ "\",\"version\":\"" ++
      Program.version ++ "\",\"database\":\"" ++ (if isUp then "ok" else "error") ++ "\"\x7d"
  let app := Program.name ++ ":" ++ Program.version ++ ":" ++ String.ofList (s.commit.toList.take 7)
  (.response ⟨if isUp then 200 else 503, [("x-app", app)], if r.method = "GET" then body else ""⟩,
    { st with world := world, now := st.now + min attempt.delay limit })

def landing (s : Service σ) (st : Serving σ) : Reply :=
  .response ⟨200, [("content-type", "text/html; charset=utf-8")],
    Landing.page s.options.telemetryPath st.exporter.registry.describe⟩

def handle (s : Service σ) (r : Request) (d : Destination) (st : Serving σ) : Reply × Serving σ :=
  match d with
  | .handler .metrics => s.metrics r st
  | .handler .health => s.health r st
  | .handler .landing => (s.landing st, st)
  | .wrongMethod _ => (.response ⟨405, [], ""⟩, st)
  | .nowhere => (.response ⟨404, [], ""⟩, st)

/-- Lets a request pass the guard, if there is one. -/
def guarded (s : Service σ) (r : Request) (d : Destination) (st : Serving σ) : Reply × Serving σ :=
  match st.guard with
  | none => s.handle r d st
  | some g =>
    let (allowed, g) := g.authorize r
    let st := { st with guard := some g }
    let (reply, st) := if allowed then s.handle r d st else (.response Guard.refusal, st)
    match reply with
    | .response resp => (.response (g.addHeaders resp), st)
    | .panicked m => (.panicked m, st)

/-- What every answer is given at last: the methods of its path if the request's is none of them,
no body for `HEAD`, and the identity of the request. -/
def complete (r : Request) (d : Destination) (freshId : String) (resp : Response) : Response :=
  let resp := match d with
    | .wrongMethod allowed => resp.setHeaderIfNone "allow" allowed
    | _ => resp
  let resp := if r.method = "HEAD" then { resp with body := "" } else resp
  let id := ((r.header? "x-request-id").map Utf8.decodeLossy).getD freshId
  resp.setHeaderIfNone "x-request-id" id

/-- Answers a request. `freshId` is the identity of a request that brings none. -/
def respond (s : Service σ) (freshId : String) (r : Request) (st : Serving σ) : Reply × Serving σ :=
  let d := s.router.route r.method r.path
  match s.guarded r d st with
  | (.response resp, st) => (.response (complete r d freshId resp), st)
  | (.panicked m, st) => (.panicked m, st)

end Service
end MysqlMetrics
