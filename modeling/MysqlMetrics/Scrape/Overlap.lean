import MysqlMetrics.Exporter
/-!
# Scrapes that overlap

Several requests ask one exporter for a scrape, each at a moment of its own. They have the totals of
the exporter in common, the descriptors that its scrapers keep, the way to the servers, and the
clock; each has its own workers and its own sink. Who moves next is a free choice, and time moves to
the next timer of all when nobody can move.

One request alone goes the way of `Exporter.scrape`. What a scraper does is fixed when its scrape
has its server: from then on it goes by the descriptors that were kept at that moment.
-/
namespace MysqlMetrics

/-- The run of a scrape that has its server: the scripts of its scrapers, and how far they have
come. -/
structure Flight.Run where
  scripts : List (String × Script)
  machine : Machine

/-- How far a request has come. -/
inductive Flight.Progress where
  | awaited
  /-- It began at a moment, and at another it is clear whether it has a server. -/
  | connecting (began : Nat) (entries : List RegistryEntry) (server : Option Server) (clear : Nat)
  | running (run : Flight.Run)
  /-- What came of it, and the end of its run if it had a server. -/
  | done (result : ScrapeResult) (run : Option Flight.Run)

/-- A request on its way, and the moment of its arrival. -/
structure Flight where
  arrival : Nat
  request : ScrapeRequest
  progress : Flight.Progress := .awaited

/-- What a request does in its turn. -/
inductive Flight.Move where
  | begin
  | connect
  | run (choice : Choice)
  | finish
deriving DecidableEq, Repr

/-- Requests before one exporter. -/
structure Overlap (σ : Type) where
  exporter : Exporter
  world : σ
  now : Nat
  flights : List Flight
  /-- The numbers of the requests that were answered with families, in the order of their ends. -/
  ended : List Nat := []

/-- Who moves next: a request, or time. -/
inductive Overlap.Turn where
  | flight (i : Nat) (move : Flight.Move)
  | wait
deriving DecidableEq, Repr

namespace Flight

variable {σ : Type}

/-- How far a move takes a request, and what it leaves of the exporter and of the way to servers. -/
abbrev Moved (σ : Type) := Progress × Exporter × σ

/-- A request is looked at, and counted unless it is refused. -/
def begun (r : ScrapeRequest) (c : Connector σ) (e : Exporter) (world : σ) (now : Nat) : Moved σ :=
  match e.resolve c r with
  | .error err => (.done (.refused err) none, e, world)
  | .ok entries =>
    let e := { e with stats := e.stats.beginScrape }
    if !Exporter.isMoment now r.timeout then
      (.done (.panicked Exporter.momentMessage) none, e, world)
    else
      let (attempt, world) := c.acquire r.target world
      let (server, clear) := Exporter.reached now (now + r.timeout.ceilMillis) attempt
      (.connecting now entries server clear, e, world)

/-- It is clear whether a request that began has a server. -/
def connected (r : ScrapeRequest) (e : Exporter) (world : σ) (now began : Nat)
    (entries : List RegistryEntry) : Option Server → Moved σ
  | none =>
    let (families, e) := e.finishDown
    (.done (.families families) none, e, world)
  | some s =>
    let (scripts, caches, _) := Exporter.unroll s e.caches (Exporter.eligible s entries)
    -- the scrapers have been spawned by now, and are dropped if the grace cannot be added
    if !Exporter.isMoment began ⟨r.timeout.nanos + Exporter.grace.nanos⟩ then
      (.done (.panicked Exporter.momentMessage) none, e, world)
    else
      (.running ⟨scripts, Machine.new now (began + r.timeout.ceilMillis) scripts⟩,
        { e with caches := caches }, world)

/-- Failures are counted when they happen. -/
def ran (run : Run) (m : Machine) (e : Exporter) (world : σ) : Moved σ :=
  (.running { run with machine := m },
    { e with stats := e.stats.recordErrors (m.failures.drop run.machine.failures.length) }, world)

/-- The families of a run whose workers have finished. -/
def finished (run : Run) (e : Exporter) (world : σ) : Moved σ :=
  let stats := e.stats.endScrape run.machine.failed
  (.done (.families (run.machine.builder.finish ++ stats.gather)) (some run),
    { e with stats := stats }, world)

def step (f : Flight) (c : Connector σ) (e : Exporter) (world : σ) (now : Nat) :
    Move → Option (Moved σ)
  | .begin =>
    match f.progress with
    | .awaited => if f.arrival ≤ now then some (begun f.request c e world now) else none
    | _ => none
  | .connect =>
    match f.progress with
    | .connecting began entries server clear =>
      if clear ≤ now then some (connected f.request e world now began entries server) else none
    | _ => none
  | .run choice =>
    match f.progress with
    | .running run =>
      if choice = .wait then none
      else (run.machine.step choice).map fun m => ran run m e world
    | _ => none
  | .finish =>
    match f.progress with
    | .running run => if run.machine.isDone then some (finished run e world) else none
    | _ => none

/-- Can the request move without time passing? -/
def canMove (f : Flight) (now : Nat) : Bool :=
  match f.progress with
  | .awaited => f.arrival ≤ now
  | .connecting _ _ _ clear => clear ≤ now
  | .running run => run.machine.canMove || run.machine.isDone
  | .done _ _ => false

/-- The moments to come at which the request can move again. -/
def timers (f : Flight) (now : Nat) : List Nat :=
  match f.progress with
  | .awaited => [f.arrival].filter (now < ·)
  | .connecting _ _ _ clear => [clear].filter (now < ·)
  | .running run => run.machine.timers
  | .done _ _ => []

/-- The clock of a run is the common one. -/
def atMoment (f : Flight) (t : Nat) : Flight :=
  match f.progress with
  | .running run => { f with progress := .running { run with machine.now := t } }
  | _ => f

def isOver (f : Flight) : Bool :=
  match f.progress with
  | .done _ _ => true
  | _ => false

/-- Was the request answered with families? -/
def isAnswered (f : Flight) : Bool :=
  match f.progress with
  | .done (.families _) _ => true
  | _ => false

end Flight

namespace Overlap

variable {σ : Type}

/-- Requests that have not arrived yet, each with the moment of its arrival. -/
def new (e : Exporter) (world : σ) (now : Nat) (requests : List (Nat × ScrapeRequest)) :
    Overlap σ where
  exporter := e
  world := world
  now := now
  flights := requests.map fun (arrival, r) => ⟨arrival, r, .awaited⟩

/-- The request of a number has moved. -/
def after (o : Overlap σ) (i : Nat) (f : Flight) (moved : Flight.Moved σ) : Overlap σ :=
  let f := { f with progress := moved.1 }
  { o with
    exporter := moved.2.1
    world := moved.2.2
    flights := o.flights.set i f
    ended := if f.isAnswered then o.ended ++ [i] else o.ended }

/-- Time moves to the next timer, once nobody can move. -/
def wait (o : Overlap σ) : Option (Overlap σ) :=
  if o.flights.any (·.canMove o.now) then none
  else
    (o.flights.flatMap (·.timers o.now)).min?.map fun t =>
      { o with now := t, flights := o.flights.map (·.atMoment t) }

def step (o : Overlap σ) (c : Connector σ) : Turn → Option (Overlap σ)
  | .flight i move =>
    o.flights[i]?.bind fun f =>
      (f.step c o.exporter o.world o.now move).map fun moved => o.after i f moved
  | .wait => o.wait

/-- Some turns, one after the other. -/
def play (c : Connector σ) : List Turn → Overlap σ → Option (Overlap σ)
  | [], o => some o
  | turn :: rest, o => (o.step c turn).bind (play c rest)

/-- What turns lead to. -/
inductive Reaches (c : Connector σ) (o : Overlap σ) : Overlap σ → Prop
  | refl : Reaches c o o
  | turn {o₁ o₂ : Overlap σ} (turn : Turn) (h : Reaches c o o₁) (hs : o₁.step c turn = some o₂) :
    Reaches c o o₂

/-- Nobody can go on, and time does not help. -/
def Settled (c : Connector σ) (o : Overlap σ) : Prop := ∀ turn, o.step c turn = none

end Overlap
end MysqlMetrics
