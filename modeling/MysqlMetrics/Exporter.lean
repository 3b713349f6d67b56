import MysqlMetrics.Registry
import MysqlMetrics.Scrape.Schedule
import MysqlMetrics.Scrape.Stats
import MysqlMetrics.Text.Blank
/-!
# The exporter

A scrape is asked for with a selection of scrapers, perhaps a target, and a span of time. It is
refused for a name that nobody knows, before anything is counted. Otherwise the exporter connects;
without a server it says only that the server is down, and with one it runs every selected scraper
whose smallest version the server has.
-/
namespace MysqlMetrics

/-! ## Servers to connect to -/

/-- A server that answered: what it says about itself, and its answers to queries. -/
structure Server where
  info : ServerInfo
  database : Database

/-- An attempt to connect: how many milliseconds it takes, and the server, if one is reached. -/
structure Attempt where
  delay : Nat := 0
  server : Option Server

/-- A way to reach servers, by target or by default, with a state of its own. -/
structure Connector (σ : Type) where
  hasTarget : String → Bool
  acquire : Option String → σ → Attempt × σ

/-! ## Requests -/

structure ScrapeRequest where
  /-- Names of scrapers, each text perhaps a list separated by commas. -/
  collect : List String := []
  target : Option String := none
  timeout : Duration
deriving Repr

inductive ScrapeError where
  | unknownScraper (name : String)
  | unknownTarget (name : String)
deriving DecidableEq, Repr

def ScrapeError.message : ScrapeError → String
  | .unknownScraper name => "unknown collector: " ++ name
  | .unknownTarget name => "unknown target: " ++ name

/-- The names in a selection, in order. -/
def ScrapeRequest.names (collect : List String) : List String :=
  (collect.flatMap fun entry => (Text.split ',' entry).map Text.trim).filter (!·.isEmpty)

/-! ## Exporters -/

structure Exporter where
  registry : Registry
  stats : ScrapeStats := {}
  /-- The descriptors that each scraper keeps. -/
  caches : SortedTable String DescCache := []
  /-- How the workers of a scrape take turns. -/
  schedule : Machine.Schedule := .inOrder

/-- What came of a scrape. -/
inductive ScrapeResult where
  | families (fs : List Family)
  | refused (error : ScrapeError)
  /-- The moment at which the scrape has to end cannot be said. -/
  | panicked (message : String)

/-- A scrape that has ended: its result, the exporter after it, the moment of its end, the scrapers
that began, and, of those that were not dropped, how each came out and the queries that they
sent. -/
structure ScrapeOutcome (σ : Type) where
  result : ScrapeResult
  exporter : Exporter
  world : σ
  now : Nat
  executed : List String := []
  outcomes : List (String × Outcome) := []
  queries : List String := []

namespace Exporter

def new (registry : Registry) : Exporter := { registry := registry }

/-- The scrapers of a selection by name, the enabled ones if it names none; or the first name that
is not known. A selection without names waits for a registry that is not ready yet; here such a
registry is read as one without scrapers, and the waiting itself is in `Callers`. -/
def select (e : Exporter) (collect : List String) : Except ScrapeError (List RegistryEntry) :=
  match ScrapeRequest.names collect with
  | [] => .ok (e.registry.enabled.getD [])
  | names => do
    let found ← names.mapM fun name =>
      match e.registry.lookup name with
      | some entry => Except.ok (name, entry)
      | none => .error (.unknownScraper name)
    return SortedTable.values (SortedTable.ofList found)

/-- What a request asks for, unless it is refused. -/
def resolve {σ : Type} (e : Exporter) (c : Connector σ) (r : ScrapeRequest) :
    Except ScrapeError (List RegistryEntry) :=
  (e.select r.collect).bind fun entries =>
    match r.target with
    | some t => if c.hasTarget t then .ok entries else .error (.unknownTarget t)
    | none => .ok entries

/-- The scripts of scrapers against a server, the caches after them, and their queries. -/
def unroll (s : Server) (caches : SortedTable String DescCache) :
    List RegistryEntry → List (String × Script) × SortedTable String DescCache × List String
  | [] => ([], caches, [])
  | entry :: rest =>
    let name := entry.scraper.name
    let args := entry.args.getD (ArgSet.new name [])
    let u := (entry.scraper.task args s.info).unroll s.database
      ((SortedTable.find? name caches).getD [])
    let (scripts, caches, queries) := unroll s (SortedTable.insert name u.cache caches) rest
    ((name, u.script) :: scripts, caches, u.queries ++ queries)

/-- The scrapers that a server is recent enough for. -/
def eligible (s : Server) (entries : List RegistryEntry) : List RegistryEntry :=
  entries.filter fun entry => (compare entry.scraper.minVersion s.info.version).isLE

/-- How long after the deadline the reports of scrapers that were cut off are waited for. -/
def grace : Duration := Duration.ofMillis Machine.graceMillis

/-- Can the moment so long after `now` be said? Moments are counted in seconds of 64 bits with a
sign. -/
def isMoment (now : Nat) (d : Duration) : Bool :=
  (now * 1000000 + d.nanos) / Duration.perSecond ≤ Decimal.maxI64

def momentMessage : String := "overflow when adding duration to instant"

/-- The families of a scrape whose workers have finished, and the exporter after it. -/
def finish (e : Exporter) (m : Machine) : List Family × Exporter :=
  let stats := (e.stats.recordErrors m.failures).endScrape m.failed
  (m.builder.finish ++ stats.gather, { e with stats := stats })

/-- The answer of a scrape that reaches no server. -/
def finishDown (e : Exporter) : List Family × Exporter :=
  ((FamilyBuilder.empty.push (Meta.up false)).2.finish,
    { e with stats := e.stats.endScrape true })

/-- The server that an attempt reaches by the deadline, and the moment at which that is clear. -/
def reached (now deadline : Nat) (a : Attempt) : Option Server × Nat :=
  if now + a.delay ≤ deadline then (a.server, now + a.delay) else (none, deadline)

/-- Runs a scrape that begins at the moment `now`. -/
def scrape {σ : Type} (e : Exporter) (c : Connector σ) (world : σ) (now : Nat) (r : ScrapeRequest) :
    ScrapeOutcome σ :=
  match e.resolve c r with
  | .error err => { result := .refused err, exporter := e, world := world, now := now }
  | .ok entries =>
    let e := { e with stats := e.stats.beginScrape }
    let panic (world : σ) (now : Nat) : ScrapeOutcome σ :=
      { result := .panicked momentMessage, exporter := e, world := world, now := now }
    if !isMoment now r.timeout then panic world now
    else
      let deadline := now + r.timeout.ceilMillis
      let (attempt, world) := c.acquire r.target world
      match reached now deadline attempt with
      | (none, later) =>
        let (families, e) := e.finishDown
        { result := .families families, exporter := e, world := world, now := later }
      | (some s, later) =>
        let (scripts, caches, queries) := unroll s e.caches (eligible s entries)
        -- the scrapers have been spawned by now, and are dropped if the grace cannot be added
        if !isMoment now ⟨r.timeout.nanos + grace.nanos⟩ then
          { panic world later with executed := e.schedule.begun (scripts.map (·.1)) }
        else
          let m := e.schedule.run (Machine.new later deadline scripts)
          let (families, e) := { e with caches := caches }.finish m
          { result := .families families, exporter := e, world := world, now := m.now
            executed := scripts.map (·.1), outcomes := m.outcomes, queries := queries }

end Exporter
end MysqlMetrics
