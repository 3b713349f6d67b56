import Mathlib.Data.List.Basic
import MysqlMetrics.Proofs.Scrape.Account
import MysqlMetrics.Proofs.Scrape.Selection
/-!
# Sessions

A session is a scrape that has its server: what was asked for is known, the server was reached in
time, and the moment at which the reader gives up can be said. Every scrape is a session, or is
refused, or finds no server, or cannot say a moment (`Exporter.scrape_course`): its deadline, before
it connects, or the moment at which the reader gives up, when its scrapers are spawned already. A
session runs its scrapers' scripts to their ends, and its log (`Session.Log`) tells what each of
them put into the families, in whatever order they took turns.
-/
namespace MysqlMetrics

open SortedTable

/-- A scrape that reaches its server: what it selects, the server, and the moment of that. -/
structure Session {σ : Type} (e : Exporter) (c : Connector σ) (world : σ) (now : Nat)
    (r : ScrapeRequest) where
  entries : List RegistryEntry
  server : Server
  start : Nat
  resolved : e.resolve c r = .ok entries
  reached : Exporter.reached now (now + r.timeout.ceilMillis) (c.acquire r.target world).1 =
    (some server, start)
  moment : Exporter.isMoment now ⟨r.timeout.nanos + Exporter.grace.nanos⟩ = true

/-- What a scraper does against a server. -/
def RegistryEntry.unrolled (x : RegistryEntry) (s : Server)
    (caches : SortedTable String DescCache) : Unrolled :=
  (x.scraper.task (x.args.getD (ArgSet.new x.scraper.name [])) s.info).unroll s.database
    ((find? x.scraper.name caches).getD [])

namespace Session

variable {σ : Type} {e : Exporter} {c : Connector σ} {world : σ} {now : Nat} {r : ScrapeRequest}

def deadline (_ : Session e c world now r) : Nat := now + r.timeout.ceilMillis

/-- For how many milliseconds the scrapers may run. -/
def limit (u : Session e c world now r) : Nat := u.deadline - u.start

/-- The scrapers that run. -/
def executed (u : Session e c world now r) : List RegistryEntry :=
  Exporter.eligible u.server u.entries

def scripts (u : Session e c world now r) : List (String × Script) :=
  (Exporter.unroll u.server e.caches u.executed).1

/-- The end of the run. -/
def final (u : Session e c world now r) : Machine :=
  e.schedule.run (Machine.new u.start u.deadline u.scripts)

def stats (u : Session e c world now r) : ScrapeStats :=
  (e.stats.beginScrape.recordErrors u.final.failures).endScrape u.final.failed

def families (u : Session e c world now r) : List Family :=
  u.final.builder.finish ++ u.stats.gather

def outcome (u : Session e c world now r) : ScrapeOutcome σ where
  result := .families u.families
  exporter :=
    { e with stats := u.stats, caches := (Exporter.unroll u.server e.caches u.executed).2.1 }
  world := (c.acquire r.target world).2
  now := u.final.now
  executed := u.scripts.map (·.1)
  outcomes := u.final.outcomes
  queries := (Exporter.unroll u.server e.caches u.executed).2.2

end Session

namespace Exporter

variable {σ : Type} {e : Exporter} {c : Connector σ} {world : σ} {now : Nat} {r : ScrapeRequest}

theorem isMoment_mono {d d' : Duration} (h : isMoment now d' = true) (hd : d.nanos ≤ d'.nanos) :
    isMoment now d = true := by
  simp only [isMoment, decide_eq_true_eq] at *
  exact Nat.le_trans (Nat.div_le_div_right (by omega)) h

theorem scrape_session (u : Session e c world now r) : e.scrape c world now r = u.outcome := by
  have hm : isMoment now r.timeout = true := isMoment_mono u.moment (Nat.le_add_right _ _)
  unfold scrape
  simp only [u.resolved, hm, u.reached, u.moment, Bool.not_true, Bool.false_eq_true, if_false]
  rfl

theorem scrape_result (u : Session e c world now r) :
    (e.scrape c world now r).result = .families u.families := by
  rw [scrape_session u]
  rfl

/-- A server is reached by a deadline if it is there and answers in time. -/
theorem reached_eq_some {limit : Nat} {a : Attempt} {s : Server} :
    (reached now (now + limit) a).1 = some s ↔ a.server = some s ∧ a.delay ≤ limit := by
  unfold reached
  by_cases h : a.delay ≤ limit
  · simp [h]
  · have hlate : ¬ now + a.delay ≤ now + limit := by omega
    simp [h, hlate]

theorem reached_isSome {limit : Nat} {a : Attempt} :
    (reached now (now + limit) a).1.isSome = true ↔ a.server.isSome = true ∧ a.delay ≤ limit := by
  simp only [Option.isSome_iff_exists, reached_eq_some, exists_and_right]

/-- The scripts of scrapers have their names. -/
theorem unroll_names (s : Server) (caches : SortedTable String DescCache)
    (entries : List RegistryEntry) :
    (unroll s caches entries).1.map (·.1) = entries.map (·.scraper.name) := by
  induction entries generalizing caches with
  | nil => rfl
  | cons y rest ih => simp only [unroll, List.map_cons, ih]

/-- Without a server, that it is down is all that arrives. -/
theorem finishDown_families (e : Exporter) :
    e.finishDown.1 = (FamilyBuilder.empty.pushAll [Meta.up false]).finish := rfl

/-- What a scrape may come to. -/
inductive Course (e : Exporter) (c : Connector σ) (world : σ) (now : Nat) (r : ScrapeRequest) :
    ScrapeOutcome σ → Prop
  | refused {err : ScrapeError} (h : e.resolve c r = .error err) :
    Course e c world now r { result := .refused err, exporter := e, world := world, now := now }
  | overflow (h : isMoment now r.timeout = false) :
    Course e c world now r
      { result := .panicked momentMessage, exporter := { e with stats := e.stats.beginScrape }
        world := world, now := now }
  | dropped {entries : List RegistryEntry} {s : Server} {later : Nat}
    (h : e.resolve c r = .ok entries) (hd : isMoment now r.timeout = true)
    (hr : reached now (now + r.timeout.ceilMillis) (c.acquire r.target world).1 = (some s, later))
    (hg : isMoment now ⟨r.timeout.nanos + grace.nanos⟩ = false) :
    Course e c world now r
      { result := .panicked momentMessage, exporter := { e with stats := e.stats.beginScrape }
        world := (c.acquire r.target world).2, now := later
        executed := e.schedule.begun ((eligible s entries).map (·.scraper.name)) }
  | down {entries : List RegistryEntry} {later : Nat} (h : e.resolve c r = .ok entries)
    (hr : reached now (now + r.timeout.ceilMillis) (c.acquire r.target world).1 = (none, later)) :
    Course e c world now r
      { result := .families (finishDown e).1
        exporter := { e with stats := e.stats.beginScrape.endScrape true }
        world := (c.acquire r.target world).2, now := later }
  | up (u : Session e c world now r) : Course e c world now r u.outcome

theorem scrape_course (e : Exporter) (c : Connector σ) (world : σ) (now : Nat) (r : ScrapeRequest) :
    Course e c world now r (e.scrape c world now r) := by
  cases hr : e.resolve c r with
  | error err =>
    have : e.scrape c world now r =
        { result := .refused err, exporter := e, world := world, now := now } := by
      simp [scrape, hr]
    rw [this]
    exact .refused hr
  | ok entries =>
    cases hm : isMoment now r.timeout with
    | false =>
      have : e.scrape c world now r =
          { result := .panicked momentMessage, exporter := { e with stats := e.stats.beginScrape }
            world := world, now := now } := by
        simp [scrape, hr, hm]
      rw [this]
      exact .overflow hm
    | true =>
      cases hs : reached now (now + r.timeout.ceilMillis) (c.acquire r.target world).1 with
      | mk server later =>
        cases server with
        | none =>
          have : e.scrape c world now r =
              { result := .families (finishDown e).1
                exporter := { e with stats := e.stats.beginScrape.endScrape true }
                world := (c.acquire r.target world).2, now := later } := by
            simp only [scrape, hr, hm, hs, Bool.not_true, Bool.false_eq_true, if_false]
            rfl
          rw [this]
          exact .down hr hs
        | some server =>
          cases hg : isMoment now ⟨r.timeout.nanos + grace.nanos⟩ with
          | false =>
            have : e.scrape c world now r =
                { result := .panicked momentMessage
                  exporter := { e with stats := e.stats.beginScrape }
                  world := (c.acquire r.target world).2, now := later
                  executed :=
                    e.schedule.begun ((eligible server entries).map (·.scraper.name)) } := by
              simp [scrape, hr, hm, hs, hg, unroll_names]
            rw [this]
            exact .dropped hr hm hs hg
          | true =>
            let u : Session e c world now r := ⟨entries, server, later, hr, hs, hg⟩
            rw [scrape_session u]
            exact .up u

end Exporter

namespace Session

variable {σ : Type} {e : Exporter} {c : Connector σ} {world : σ} {now : Nat} {r : ScrapeRequest}

/-! ## The scrapers that run -/

theorem start_le_deadline (u : Session e c world now r) : u.start ≤ u.deadline := by
  have h := u.reached
  unfold Exporter.reached at h
  split at h
  · rename_i hle
    have hs := congrArg Prod.snd h
    simp only at hs
    rw [← hs]
    exact hle
  · have hs := congrArg Prod.fst h
    cases hs

section Executed

variable {allowed : Scraper → Prop} {x : RegistryEntry}

theorem executed_inOrder (hw : e.registry.WellFormed allowed) (u : Session e c world now r) :
    Registry.InOrder u.executed := (Exporter.eligible_spec hw u.server u.resolved).1

/-- Those run that are selected and that the server is recent enough for. -/
theorem mem_executed (hw : e.registry.WellFormed allowed) (u : Session e c world now r) :
    x ∈ u.executed ↔ e.Selects r.collect x ∧ x.scraper.minVersion.AtMost u.server.info.version :=
  (Exporter.eligible_spec hw u.server u.resolved).2 x

theorem registered_of_executed (hw : e.registry.WellFormed allowed) (u : Session e c world now r)
    (h : x ∈ u.executed) : x ∈ values e.registry.entries :=
  ((mem_executed hw u).1 h).1.1

end Executed

theorem unrolled_insert {x y : RegistryEntry} (s : Server) (caches : SortedTable String DescCache)
    (kept : DescCache) (h : x.scraper.name ≠ y.scraper.name) :
    x.unrolled s (insert y.scraper.name kept caches) = x.unrolled s caches := by
  simp [RegistryEntry.unrolled, SortedTable.insert, find?_upsert_ne h]

/-- Scrapers of different names do not touch each other's descriptors. -/
theorem unroll_eq (s : Server) {entries : List RegistryEntry}
    (caches : SortedTable String DescCache) (h : Registry.InOrder entries) :
    (Exporter.unroll s caches entries).1 =
        entries.map (fun x => (x.scraper.name, (x.unrolled s caches).script)) ∧
      (Exporter.unroll s caches entries).2.2 =
        entries.flatMap fun x => (x.unrolled s caches).queries := by
  induction entries generalizing caches with
  | nil => exact ⟨rfl, rfl⟩
  | cons y rest ih =>
    have hy := List.pairwise_cons.1 (show Ascending _ from h)
    obtain ⟨hscripts, hqueries⟩ := ih (insert y.scraper.name (y.unrolled s caches).cache caches)
      (h.sublist (List.sublist_cons_self y rest))
    have hrest : ∀ x ∈ rest,
        x.unrolled s (insert y.scraper.name (y.unrolled s caches).cache caches) =
        x.unrolled s caches := by
      intro x hx
      have hlt := hy.1 _ (List.mem_map_of_mem hx)
      refine unrolled_insert s caches _ ?_
      intro he
      simp [he] at hlt
    simp only [Exporter.unroll, List.map_cons, List.flatMap_cons]
    constructor
    · refine congrArg (List.cons _) (hscripts.trans (List.map_congr_left fun x hx => ?_))
      rw [hrest x hx]
    · refine congrArg (_ ++ ·) (hqueries.trans (List.flatMap_congr fun x hx => ?_))
      rw [hrest x hx]

theorem scripts_eq {allowed : Scraper → Prop} (hw : e.registry.WellFormed allowed)
    (u : Session e c world now r) :
    u.scripts = u.executed.map fun x => (x.scraper.name, (x.unrolled u.server e.caches).script) :=
  (unroll_eq u.server e.caches (executed_inOrder hw u)).1

theorem scripts_names (u : Session e c world now r) :
    u.scripts.map (·.1) = u.executed.map (·.scraper.name) :=
  Exporter.unroll_names u.server e.caches u.executed

theorem names_nodup {allowed : Scraper → Prop} (hw : e.registry.WellFormed allowed)
    (u : Session e c world now r) : (u.scripts.map (·.1)).Nodup := by
  rw [scripts_names]
  exact (executed_inOrder hw u).nodup_names

theorem index_eq {allowed : Scraper → Prop} (hw : e.registry.WellFormed allowed)
    (u : Session e c world now r) {i j : Nat} {name : String} {s s' : Script}
    (hi : u.scripts[i]? = some (name, s)) (hj : u.scripts[j]? = some (name, s')) : i = j := by
  have hlt : i < (u.scripts.map (·.1)).length := by
    simpa using (List.getElem?_eq_some_iff.1 hi).1
  refine (List.getElem?_inj hlt (names_nodup hw u)).1 ?_
  rw [List.getElem?_map, List.getElem?_map, hi, hj]
  rfl

/-! ## The log of a session -/

/-- What the scrapers did in a session: how each came out, and what the families are made of. -/
structure Log (u : Session e c world now r) (log : List (Nat × Sample)) : Prop where
  numbers : ∀ p ∈ log, p.1 < u.scripts.length
  families : u.final.builder = FamilyBuilder.empty.pushAll (Meta.up true :: log.map (·.2))
  /-- A worker sends what its script comes to, and reports on itself unless it panicked. -/
  sent : ∀ (i : Nat) (name : String) (script : Script), u.scripts[i]? = some (name, script) →
    ∃ (o : Outcome) (out : List Sample) (elapsed : Nat), u.final.outcomes[i]? = some (name, o) ∧
      Script.Ended u.limit script out o elapsed ∧
      sentBy i log = out ++ if o = .panicked then [] else Meta.report name elapsed o.isOk

theorem final_reached (u : Session e c world now r) :
    Machine.Reaches (Machine.new u.start u.deadline u.scripts) u.final :=
  e.schedule.reaches _

theorem final_settled (u : Session e c world now r) : u.final.Settled := e.schedule.settled _

theorem exists_account (u : Session e c world now r) :
    ∃ log, Account u.start u.deadline u.scripts u.final log :=
  Machine.account_of_reaches u.final_reached (Machine.account_new u.start_le_deadline)

/-- At the end of a session everyone has finished and all that was sent has been read. -/
theorem isDone_final (u : Session e c world now r) : u.final.isDone = true := by
  obtain ⟨log, a⟩ := u.exists_account
  obtain ⟨hq, hfin⟩ := Machine.account_of_settled a u.final_settled
  have hall : u.final.workers.all Worker.isFinished = true := List.all_eq_true.2 hfin
  have hempty : u.final.sink.queue.isEmpty = true := List.isEmpty_iff.2 hq
  rw [Machine.isDone, hall, hempty]
  rfl

theorem exists_log (u : Session e c world now r) : ∃ log, u.Log log := by
  obtain ⟨log, a⟩ := u.exists_account
  obtain ⟨hq, hfin⟩ := Machine.account_of_settled a u.final_settled
  refine ⟨log, a.numbers, ?_, fun i name script hi => ?_⟩
  · obtain ⟨taken, hl, hb⟩ := a.order
    rw [hq, List.append_nil] at hl
    rw [hl]
    exact hb
  · have hlt : i < u.final.workers.length := by
      rw [show u.final.workers.length = _ from a.length]
      exact (List.getElem?_eq_some_iff.1 hi).1
    obtain ⟨w, hw⟩ : ∃ w, u.final.workers[i]? = some w := ⟨_, List.getElem?_eq_getElem hlt⟩
    obtain ⟨hname, -, hstage⟩ := a.stage i w name script hw hi
    have hf := hfin w (List.mem_of_getElem? hw)
    obtain ⟨o, hp⟩ : ∃ o, w.phase = .finished o := by
      unfold Worker.isFinished at hf
      split at hf
      · exact ⟨_, by assumption⟩
      · cases hf
    rw [hp] at hstage
    generalize hs : sentBy i log = sent at hstage
    cases hstage with
    | finished he hr =>
      refine ⟨o, _, _, ?_, he, by rw [hr]⟩
      simp [Machine.outcomes, hw, hname, Worker.outcome, hp]

end Session

/-! ## Scrapers that do one thing -/

/-- A scraper that does the same against every server. -/
def Scraper.ofTask (name : String) (task : Task) : Scraper :=
  { name := name, help := "", task := fun _ _ => task }

/-- An exporter of such scrapers. -/
def Exporter.ofTasks (tasks : List (String × Task)) : Exporter :=
  .new (Collector.registryOf (tasks.map fun p => (.ofTask p.1 p.2, true)))

theorem Exporter.reachable_ofTasks (tasks : List (String × Task)) :
    (ofTasks tasks).registry.Reachable fun _ => True :=
  Registry.reachable_registryOf fun _ _ => trivial

def Sample.gauge (name : String) (x : Float) : Sample := ⟨⟨name, "", .gauge, [], []⟩, [], .scalar x⟩

/-- A server that has nothing to tell, and the way to it. -/
def Server.silent : Server := ⟨⟨.mySql, ⟨8, 0, 0⟩, ""⟩, fun _ => .rows []⟩

def Connector.to (s : Server) : Connector Unit where
  hasTarget _ := false
  acquire _ world := ({ server := some s }, world)

/-- A request for some scrapers that has a second. -/
def ScrapeRequest.brief (names : String) : ScrapeRequest :=
  { collect := [names], timeout := .ofMillis 1000 }

/-- The session in which all of some scrapers run. -/
def Session.ofTasks {tasks : List (String × Task)} {names : String}
    (h : (Exporter.ofTasks tasks).resolve (.to .silent) (.brief names) =
      .ok (tasks.map fun p => ⟨.ofTask p.1 p.2, true, true, none⟩)) :
    Session (.ofTasks tasks) (.to .silent) () 0 (.brief names) where
  entries := _
  server := .silent
  start := 0
  resolved := h
  reached := rfl
  moment := (by decide :
    Exporter.isMoment 0 ⟨(Duration.ofMillis 1000).nanos + Exporter.grace.nanos⟩ = true)

end MysqlMetrics
