import MysqlMetrics.Exporter
import MysqlMetrics.Proofs.Collector.Builtin
/-!
# What collectors make of a result

All built-in scrapers but those of the exporter's own usage ask the server (`QueryCollector`), and
each has a way to turn rows into samples (`QueryCollector.samples`). Of a result whose rows have a
cell for each column samples can always be made, so that a scrape can only fail by a query that is
refused (`exists_samples_of_result`). What a scrape emits is made in that way of rows that the
server has answered (`answered_of_mem_emitted`).
-/
namespace MysqlMetrics

open Collector

/-! ## Results -/

/-- A result: each row has one cell for each column. -/
structure ResultSet where
  columns : List String
  cells : List (List Cell)
  width : ∀ cs ∈ cells, cs.length = columns.length

def ResultSet.rows (t : ResultSet) : List Row := rowsOf t.columns t.cells

/-- The rows of an answer are those of a result. -/
def QueryResult.Rectangular : QueryResult → Prop
  | .rows found => ∃ t : ResultSet, found = t.rows
  | .failed _ => True

/-! ## One scrape after the other -/

namespace Scraper

/-- The arguments that a scraper has, and the server that it meets. -/
structure Visit where
  args : ArgSet
  server : Server

variable {x : Scraper} {cache : DescCache}

def visit (x : Scraper) (cache : DescCache) (v : Visit) : Unrolled :=
  (x.task v.args v.server.info).unroll v.server.database cache

/-- The descriptors that a scraper keeps after some visits. -/
def keptAfter (x : Scraper) (visits : List Visit) : DescCache :=
  visits.foldl (fun cache v => (x.visit cache v).cache) []

theorem visit_follows (h : IsBuiltin x) (hc : cache.Of (Describes x.name)) (v : Visit) :
    (x.visit cache v).Follows (Describes x.name) (Fatal x.name) v.server.database False :=
  (behaves_of_isBuiltin h v.args v.server.info).unroll v.server.database hc

theorem keptAfter_of (h : IsBuiltin x) (visits : List Visit) :
    (x.keptAfter visits).Of (Describes x.name) := by
  unfold keptAfter
  refine List.foldlRecOn visits _ (motive := DescCache.Of (Describes x.name)) ?_ ?_
  · intro p hp
    cases hp
  · intro cache hc v _
    exact (visit_follows h hc v).cache

end Scraper

/-! ## The collectors -/

/-- The built-in scrapers that ask the server. -/
inductive QueryCollector where
  | globalStatus
  | globalVariables
  | binaryLogs
  | replicaStatus
  | heartbeat
  | processlist
  | tableSizes
  | pageCompression
  | responseTime
  | tableStatistics
  | statementDigests
  | fileEvents
  | groupMembers
deriving DecidableEq, Repr

namespace QueryCollector

def all : List QueryCollector :=
  [globalStatus, globalVariables, binaryLogs, replicaStatus, heartbeat, processlist, tableSizes,
   pageCompression, responseTime, tableStatistics, statementDigests, fileEvents, groupMembers]

def scraper : QueryCollector → Scraper
  | globalStatus => GlobalStatus.scraper
  | globalVariables => GlobalVariables.scraper
  | binaryLogs => BinaryLogs.scraper
  | replicaStatus => ReplicaStatus.scraper
  | heartbeat => Heartbeat.scraper
  | processlist => Processlist.scraper
  | tableSizes => TableSizes.scraper
  | pageCompression => PageCompression.scraper
  | responseTime => ResponseTime.scraper
  | tableStatistics => TableStatistics.scraper
  | statementDigests => StatementDigests.scraper
  | fileEvents => FileEvents.scraper
  | groupMembers => GroupMembers.scraper

/-- The samples of some rows, with arguments and kept descriptors. Response times are a histogram
for each of their tables. -/
def samples (c : QueryCollector) (args : ArgSet) (cache : DescCache) (rows : List Row) :
    Except MetricError (List Sample) :=
  match c with
  | globalStatus => GlobalStatus.samples rows
  | globalVariables => GlobalVariables.samples rows
  | binaryLogs => BinaryLogs.samples rows
  | replicaStatus => (ReplicaStatus.samples cache rows).1
  | heartbeat => Heartbeat.samples rows
  | processlist => Processlist.samples args rows
  | tableSizes => TableSizes.samples rows
  | pageCompression => PageCompression.samples rows
  | responseTime =>
    ResponseTime.sources.mapM fun (table, stem) =>
      ResponseTime.sample (ResponseTime.descFor table stem) rows
  | tableStatistics => TableStatistics.samples rows
  | statementDigests => StatementDigests.samples rows
  | fileEvents => FileEvents.samples rows
  | groupMembers => (GroupMembers.samples cache rows).1

/-- A collector makes a sample of some rows, after whatever it has met before. -/
def Makes (c : QueryCollector) (rows : List Row) (s : Sample) : Prop :=
  ∃ visits args ss, c.samples args (c.scraper.keptAfter visits) rows = .ok ss ∧ s ∈ ss

/-- No other built-in scraper asks the server. -/
theorem builtin_eq (usage : SelfUsage.Usage) : (builtin usage).map (·.1) =
    all.map scraper ++ [SelfUsage.processScraper usage, SelfUsage.workerScraper usage] := rfl

theorem isBuiltin (c : QueryCollector) : IsBuiltin c.scraper := by
  have hmem : c ∈ all := by cases c <;> decide
  refine ⟨⟨none, ⟨0, 0, 0⟩⟩, ?_⟩
  rw [builtin_eq]
  exact List.mem_append_left _ (List.mem_map_of_mem hmem)

variable {c : QueryCollector} {cache : DescCache} {rows : List Row} {s : Sample}

/-! ## Samples can be made -/

theorem exists_samples (hc : cache.Of (Describes c.scraper.name))
    (hr : c = groupMembers → ¬ GroupMembers.Ragged rows) (args : ArgSet) :
    ∃ ss, c.samples args cache rows = .ok ss ∧ ∀ s ∈ ss, Describes c.scraper.name s.desc := by
  cases c with
  | globalStatus => exact GlobalStatus.exists_samples rows
  | globalVariables => exact GlobalVariables.exists_samples rows
  | binaryLogs => exact BinaryLogs.exists_samples rows
  | replicaStatus => exact (ReplicaStatus.samples_spec hc rows).1
  | heartbeat => exact Heartbeat.exists_samples rows
  | processlist => exact Processlist.exists_samples args rows
  | tableSizes => exact TableSizes.exists_samples rows
  | pageCompression => exact PageCompression.exists_samples rows
  | responseTime => exact exists_mapM_of_made fun p hp => ResponseTime.made_sample hp rows
  | tableStatistics => exact TableStatistics.exists_samples rows
  | statementDigests => exact StatementDigests.exists_samples rows
  | fileEvents => exact FileEvents.exists_samples rows
  | groupMembers =>
    obtain ⟨ss, hss, hdesc⟩ := GroupMembers.exists_samples hc (hr rfl)
    exact ⟨ss, hss, fun s hs => (hdesc s hs).1⟩

theorem describes_of_makes (h : c.Makes rows s) : Describes c.scraper.name s.desc := by
  obtain ⟨visits, args, ss, hss, hs⟩ := h
  have hc := Scraper.keptAfter_of c.isBuiltin visits
  -- of a row without as many cells as labels no sample could have been made
  have hr : c = groupMembers → ¬ GroupMembers.Ragged rows := by
    rintro rfl hr
    obtain ⟨err, herr⟩ := GroupMembers.exists_samples_eq_error hc hr
    cases herr.symm.trans hss
  obtain ⟨ss', hss', hdesc⟩ := exists_samples hc hr args
  obtain rfl : ss' = ss := Except.ok.inj (hss'.symm.trans hss)
  exact hdesc s hs

/-- A refusal is all that can be fatal where answers are results. -/
theorem exists_failed_of_fatal {name sql : String} {answer : QueryResult}
    (hr : answer.Rectangular) (h : Fatal name sql answer) : ∃ code, answer = .failed code := by
  cases answer with
  | failed code => exact ⟨code, rfl⟩
  | rows found =>
    obtain ⟨t, rfl⟩ := hr
    unfold Fatal at h
    split at h
    · exact h.elim
    · exact h.elim
    · exact h.elim
    · exact h.elim
    · exact absurd h (GroupMembers.not_ragged_rowsOf t.width)
    · exact h.elim

/-- **No result is in the way.** Whatever a collector has met before, it makes samples of every
result, with any arguments, and every histogram without labels can be made of it. So a scrape of a
server that answers with results ends well, unless one of its queries was refused. -/
theorem exists_samples_of_result (c : QueryCollector) (visits : List Scraper.Visit) :
    (∀ args (t : ResultSet), ∃ ss, c.samples args (c.scraper.keptAfter visits) t.rows = .ok ss) ∧
    (∀ (d : Desc) (t : ResultSet), d.kind = .histogram → d.labels = [] →
      ∃ s, ResponseTime.sample d t.rows = .ok s) ∧
    ∀ v : Scraper.Visit, (∀ sql, (v.server.database sql).Rectangular) →
      (c.scraper.visit (c.scraper.keptAfter visits) v).script.ending = .ok ∨
      ∃ sql ∈ (c.scraper.visit (c.scraper.keptAfter visits) v).queries, ∃ code,
        v.server.database sql = .failed code := by
  have hc := Scraper.keptAfter_of c.isBuiltin visits
  refine ⟨fun args t => ?_, fun d t hk hl => ?_, fun v hv => ?_⟩
  · obtain ⟨ss, hss, -⟩ :=
      exists_samples hc (fun _ => GroupMembers.not_ragged_rowsOf t.width) args
    exact ⟨ss, hss⟩
  · obtain ⟨s, hs, -⟩ : Made (· = d) (ResponseTime.sample d t.rows) :=
      made_ofHistogram rfl hk (by rw [hl])
    exact ⟨s, hs⟩
  · rcases (Scraper.visit_follows c.isBuiltin hc v).ending with ⟨hok, -⟩ | ⟨-, hdoomed⟩
    · exact .inl hok
    · obtain ⟨sql, hsql, hfatal⟩ := hdoomed.resolve_left id
      exact .inr ⟨sql, hsql, exists_failed_of_fatal (hv sql) hfatal⟩

end QueryCollector

/-- Two columns of one name, a cell without a value, and one that is no text. -/
def ResultSet.odd : ResultSet := ⟨["ID", "ID"], [[none, some [0xff]]], by decide⟩

/-- A server that answers so whatever it is asked. -/
def Scraper.Visit.odd : Scraper.Visit :=
  ⟨.new "" [], ⟨.mySql, ⟨8, 0, 36⟩, ""⟩, fun _ => .rows ResultSet.odd.rows⟩

theorem exists_samples_of_result_odd :
    (∃ s, ResponseTime.sample (ResponseTime.descFor "t" "seconds") ResultSet.odd.rows = .ok s) ∧
    (GroupMembers.scraper.visit (GroupMembers.scraper.keptAfter [.odd]) .odd).script.ending =
      .ok := by
  obtain ⟨-, htime, hends⟩ := QueryCollector.exists_samples_of_result .groupMembers [.odd]
  refine ⟨htime _ _ rfl rfl, ?_⟩
  rcases hends .odd fun _ => ⟨.odd, rfl⟩ with hok | ⟨_, _, _, hfailed⟩
  · exact hok
  · cases hfailed

/-! ## What a scrape emits -/

namespace Unrolled

variable {db : Database} {cache : DescCache} {M : List Row → Prop} {s : Sample} {sql : String}

def emitted (u : Unrolled) : List Sample := Script.emitted u.script.acts

/-- One of the queries was answered with such rows. -/
def Answered (db : Database) (M : List Row → Prop) (u : Unrolled) : Prop :=
  ∃ sql ∈ u.queries, ∃ rows, db sql = .rows rows ∧ M rows

theorem emitted_emitAll (ss : List Sample) (t : Task) :
    ((Task.emitAll ss t).unroll db cache).emitted = ss ++ (t.unroll db cache).emitted := by
  induction ss with
  | nil => rfl
  | cons s ss ih => exact congrArg (s :: ·) ih

theorem exists_of_mem_emitted_deliver {x : Except MetricError (List Sample)}
    (h : s ∈ ((deliver x).unroll db cache).emitted) : ∃ ss, x = .ok ss ∧ s ∈ ss := by
  cases x with
  | error err => cases h
  | ok ss =>
    have hall : ((deliver (.ok ss)).unroll db cache).emitted = ss ++ [] := emitted_emitAll ss .done
    rw [hall, List.append_nil] at h
    exact ⟨ss, rfl, h⟩

/-- What is emitted after a query is made of its answer, or of that to a later one. -/
theorem answered_query {next : QueryResult → Task}
    (h : s ∈ ((Task.query sql next).unroll db cache).emitted)
    (hrows : ∀ rows, s ∈ ((next (.rows rows)).unroll db cache).emitted →
      M rows ∨ ((next (.rows rows)).unroll db cache).Answered db M)
    (hfailed : ∀ code, s ∈ ((next (.failed code)).unroll db cache).emitted →
      ((next (.failed code)).unroll db cache).Answered db M) :
    ((Task.query sql next).unroll db cache).Answered db M := by
  have h : s ∈ ((next (db sql)).unroll db cache).emitted := h
  have later : ((next (db sql)).unroll db cache).Answered db M →
      ((Task.query sql next).unroll db cache).Answered db M := by
    rintro ⟨sql', hsql, hM⟩
    exact ⟨sql', List.mem_cons_of_mem _ hsql, hM⟩
  cases hdb : db sql with
  | rows rows =>
    rw [hdb] at h later
    rcases hrows rows h with hM | hlater
    · exact ⟨sql, List.mem_cons_self, rows, hdb, hM⟩
    · exact later hlater
  | failed code =>
    rw [hdb] at h later
    exact later (hfailed code h)

theorem answered_fetch {next : List Row → Task}
    (h : s ∈ ((fetch sql next).unroll db cache).emitted)
    (hrows : ∀ rows, s ∈ ((next rows).unroll db cache).emitted →
      M rows ∨ ((next rows).unroll db cache).Answered db M) :
    ((fetch sql next).unroll db cache).Answered db M :=
  answered_query h hrows fun _ h => by cases h

theorem answered_fetchOrAbsent {next : List Row → Task}
    (h : s ∈ ((fetchOrAbsent sql next).unroll db cache).emitted)
    (hrows : ∀ rows, s ∈ ((next rows).unroll db cache).emitted →
      M rows ∨ ((next rows).unroll db cache).Answered db M) :
    ((fetchOrAbsent sql next).unroll db cache).Answered db M := by
  refine answered_query h hrows fun code h => ?_
  dsimp only at h
  split at h <;> cases h

end Unrolled

namespace QueryCollector

open Unrolled

variable {c : QueryCollector} {s : Sample} {cache : DescCache} {db : Database}

theorem answered_readTables {M : List Row → Prop} {tables : List (String × String)}
    (hM : ∀ p ∈ tables, ∀ rows, ResponseTime.sample (ResponseTime.descFor p.1 p.2) rows = .ok s →
      M rows)
    (h : s ∈ ((ResponseTime.readTables tables).unroll db cache).emitted) :
    ((ResponseTime.readTables tables).unroll db cache).Answered db M := by
  -- a table with rows is emitted before the next is asked for; from any other the reading goes on
  induction tables with
  | nil => cases h
  | cons p rest ih =>
    have ih := ih fun p hp => hM p (List.mem_cons_of_mem _ hp)
    refine answered_query h (fun rows h => ?_) fun _ h => ih h
    cases rows with
    | nil => exact .inr (ih h)
    | cons row rows =>
      cases hs : ResponseTime.sample (ResponseTime.descFor p.1 p.2) (row :: rows) with
      | error err =>
        simp only [hs] at h
        cases h
      | ok s' =>
        simp only [hs] at h ⊢
        rcases List.mem_cons.1 (show s ∈ s' :: Script.emitted _ from h) with rfl | h
        · exact .inl (hM p List.mem_cons_self _ hs)
        · exact .inr (ih h)

/-- **What is emitted was answered.** Each sample that a scrape emits is made of rows that one of
its queries was answered with. -/
theorem answered_of_mem_emitted (visits : List Scraper.Visit) (v : Scraper.Visit)
    (h : s ∈ (c.scraper.visit (c.scraper.keptAfter visits) v).emitted) :
    (c.scraper.visit (c.scraper.keptAfter visits) v).Answered v.server.database
      fun rows => c.Makes rows s := by
  have hmade : ∀ rows cache, s ∈ ((deliver (c.samples v.args (c.scraper.keptAfter visits)
      rows)).unroll v.server.database cache).emitted → c.Makes rows s := by
    intro rows cache h
    obtain ⟨ss, hss, hs⟩ := exists_of_mem_emitted_deliver h
    exact ⟨visits, v.args, ss, hss, hs⟩
  cases c with
  | globalStatus | globalVariables => exact answered_fetch h fun rows h => .inl (hmade rows _ h)
  | replicaStatus | heartbeat | processlist | tableSizes | pageCompression | tableStatistics
  | statementDigests | fileEvents | groupMembers =>
    exact answered_fetchOrAbsent h fun rows h => .inl (hmade rows _ h)
  | binaryLogs =>
    refine answered_fetch h fun answer h => .inr ?_
    split at h <;> rename_i hon
    · rw [if_pos hon]
      exact answered_fetchOrAbsent h fun rows h => .inl (hmade rows _ h)
    · cases h
  | responseTime =>
    refine answered_fetchOrAbsent h fun answer h => .inr ?_
    split at h <;> rename_i hon
    · rw [if_pos hon]
      refine answered_readTables (fun p hp rows hs => ?_) h
      obtain ⟨ss, hss, -⟩ : ∃ ss, responseTime.samples v.args _ rows = .ok ss ∧ _ :=
        exists_samples (Scraper.keptAfter_of (isBuiltin _) visits) (by simp) v.args
      obtain ⟨s', hs', hok⟩ := exists_of_mapM_eq_ok hss hp
      obtain rfl : s' = s := Except.ok.inj (hok.symm.trans hs)
      exact ⟨visits, v.args, ss, hss, hs'⟩
    · cases h

end QueryCollector
end MysqlMetrics
