import MysqlMetrics.Proofs.Scrape.Reports
/-!
# What an answer looks like

An answer is the families of what has arrived, and behind them the totals of the exporter. In each
of the two every name stands once; together they repeat a name exactly if a scraper has said
something under the name of a total (`Exporter.scrape_distinct`). Whether the server is up is said
first, so nothing that a scraper says under that name is shown (`Exporter.scrape_up`).
-/
namespace MysqlMetrics

open SortedTable

/-! ## Totals -/

namespace ScrapeStats

/-- What counting and looking at counts make of the first totals. -/
inductive Reachable : ScrapeStats → Prop
  | new : Reachable {}
  | beginScrape {s : ScrapeStats} (h : Reachable s) : Reachable s.beginScrape
  | endScrape {s : ScrapeStats} (failed : Bool) (h : Reachable s) : Reachable (s.endScrape failed)
  | recordError {s : ScrapeStats} (scraper : String) (h : Reachable s) :
    Reachable (s.recordError scraper)
  | errorsOf {s : ScrapeStats} (scraper : String) (h : Reachable s) :
    Reachable (s.errorsOf scraper).2

variable {s : ScrapeStats}

theorem Reachable.recordErrors (h : Reachable s) (scrapers : List String) :
    Reachable (s.recordErrors scrapers) :=
  List.foldlRecOn scrapers _ (motive := Reachable) h fun _ h scraper _ => h.recordError scraper

theorem Reachable.ascending (h : Reachable s) : Ascending s.errors := by
  induction h with
  | new => exact .nil
  | beginScrape _ ih | endScrape _ _ ih => exact ih
  | recordError _ _ ih | errorsOf _ _ ih => exact ih.upsert

theorem nodup_names_gather (s : ScrapeStats) : (s.gather.map (·.name)).Nodup := by
  unfold gather
  dsimp only
  split
  · simp only [List.map_cons, List.map_nil, single]
    decide
  · simp only [List.map_cons, List.map_nil, single]
    decide

theorem Reachable.nodup_labels (h : Reachable s) {f : Family} (hf : f ∈ s.gather) :
    (f.metrics.map (·.labels)).Nodup := by
  have hone : ∀ stem help kind x, ((single stem help kind x).metrics.map (·.labels)).Nodup :=
    fun _ _ _ _ => List.nodup_singleton _
  have hfailures : (s.errors.map fun p => [("collector", p.1)]).Nodup := by
    have : (s.errors.map fun p => [("collector", p.1)]) =
        s.errors.keys.map fun scraper => [("collector", scraper)] := by
      simp [keys, Function.comp_def]
    rw [this]
    refine List.Nodup.map (fun a b hab => ?_) h.ascending.nodup_keys
    simpa using hab
  unfold gather at hf
  dsimp only at hf
  split at hf <;> simp only [List.mem_cons, List.not_mem_nil, or_false] at hf
  · rcases hf with rfl | rfl <;> exact hone _ _ _ _
  · rcases hf with rfl | rfl | rfl
    · exact hone _ _ _ _
    · simpa [Function.comp_def] using hfailures
    · exact hone _ _ _ _

theorem name_ne_up {f : Family} (h : f ∈ s.gather) : f.name ≠ Meta.upDesc.name := by
  have hup : Meta.upDesc.name ∉ names := by decide
  exact fun hn => hup (hn ▸ name_of_mem_gather h)

/-- Whether the last scrape failed is shown as a number. -/
theorem readings_lastFailed (s : ScrapeStats) :
    readings s.gather "mysql_exporter_last_scrape_error" [] =
      [.scalar (if s.lastFailed then 1 else 0)] := by
  have hlast : Naming.join Naming.root "exporter" "last_scrape_error" =
      "mysql_exporter_last_scrape_error" := by decide
  have hfailures : Naming.join Naming.root "exporter" "scrape_errors_total" ≠
      "mysql_exporter_last_scrape_error" := by decide
  have htotal : Naming.join Naming.root "exporter" "scrapes_total" ≠
      "mysql_exporter_last_scrape_error" := by decide
  have hvalue : Decimal.ofNat (if s.lastFailed then 1 else 0) = if s.lastFailed then 1 else 0 := by
    cases s.lastFailed <;> rfl
  unfold readings gather
  dsimp only
  split <;> simp [single, hlast, hfailures, htotal, hvalue]

end ScrapeStats

/-! ## Names -/

/-- The name and the labels of every metric. -/
def series (fs : List Family) : List (String × List (String × String)) :=
  fs.flatMap fun f => f.metrics.map fun m => (f.name, m.labels)

theorem nodup_series {fs : List Family} (hn : (fs.map (·.name)).Nodup)
    (hl : ∀ f ∈ fs, (f.metrics.map (·.labels)).Nodup) : (series fs).Nodup := by
  refine List.nodup_flatMap.2 ⟨fun f hf => ?_, ?_⟩
  · refine List.Nodup.of_map (·.2) ?_
    rw [List.map_map]
    exact hl f hf
  · refine (List.pairwise_map.1 hn).imp fun {f g} hne p hp hq => hne ?_
    obtain ⟨m, -, rfl⟩ := List.mem_map.1 hp
    obtain ⟨m', -, he⟩ := List.mem_map.1 hq
    exact (congrArg Prod.fst he).symm

namespace Session

variable {σ : Type} {e : Exporter} {c : Connector σ} {world : σ} {now : Nat} {r : ScrapeRequest}
  {u : Session e c world now r} {log : List (Nat × Sample)}

theorem families_of_log (hl : u.Log log) :
    u.families = (FamilyBuilder.empty.pushAll (Meta.up true :: log.map (·.2))).finish ++
      u.stats.gather := by
  rw [families, hl.families]

theorem stats_reachable (u : Session e c world now r) (hs : e.stats.Reachable) :
    u.stats.Reachable :=
  (hs.beginScrape.recordErrors _).endScrape _

theorem nodup_labels (u : Session e c world now r) (hs : e.stats.Reachable) :
    ∀ f ∈ u.families, (f.metrics.map (·.labels)).Nodup := by
  intro f hf
  obtain ⟨log, hl⟩ := u.exists_log
  rw [families_of_log hl] at hf
  rcases List.mem_append.1 hf with hf | hf
  · exact FamilyBuilder.nodup_labels_of_mem_finish hf
  · exact (u.stats_reachable hs).nodup_labels hf

/-- A name stands twice if something has arrived under the name of a total, and only then. -/
theorem nodup_names_iff (hl : u.Log log) : (u.families.map (·.name)).Nodup ↔
    ∀ p ∈ log, p.2.desc.name ∉ u.stats.gather.map (·.name) := by
  have hup : Meta.upDesc.name ∉ u.stats.gather.map (·.name) := by
    intro h
    obtain ⟨f, hf, hn⟩ := List.mem_map.1 h
    exact ScrapeStats.name_ne_up hf hn
  rw [families_of_log hl, List.map_append, List.nodup_append]
  constructor
  · rintro ⟨-, -, hd⟩ p hp hn
    have hmem := FamilyBuilder.mem_names_finish.2
      ⟨p.2, List.mem_cons_of_mem (Meta.up true) (List.mem_map_of_mem hp), rfl⟩
    exact hd _ hmem _ hn rfl
  · intro h
    refine ⟨FamilyBuilder.nodup_names_finish _, u.stats.nodup_names_gather, ?_⟩
    rintro n hn _ hm rfl
    obtain ⟨s, hs, rfl⟩ := FamilyBuilder.mem_names_finish.1 hn
    rcases List.mem_cons.1 hs with rfl | hs
    · exact hup hm
    · obtain ⟨p, hp, rfl⟩ := List.mem_map.1 hs
      exact h p hp hm

/-- Where no script says anything under the name of a total, no name stands twice. -/
theorem nodup_names (u : Session e c world now r)
    (h : ∀ p ∈ u.scripts, ∀ s ∈ Script.emitted p.2.acts, s.desc.name ∉ ScrapeStats.names) :
    (u.families.map (·.name)).Nodup := by
  obtain ⟨log, hl⟩ := u.exists_log
  have htotals : ∀ n ∈ u.stats.gather.map (·.name), n ∈ ScrapeStats.names := by
    intro n hn
    obtain ⟨f, hf, rfl⟩ := List.mem_map.1 hn
    exact ScrapeStats.name_of_mem_gather hf
  refine (nodup_names_iff hl).2 fun p hp hn => ?_
  obtain ⟨name, script, hi, hs | ⟨o, elapsed, -, -, hs⟩⟩ := hl.cases (i := p.1) (s := p.2) hp
  · exact h _ (List.mem_of_getElem? hi) _ hs (htotals _ hn)
  · exact Meta.name_not_mem_totals _ (Meta.desc_mem_reports hs) (htotals _ hn)

end Session

namespace Exporter

variable {σ : Type} {e : Exporter} {c : Connector σ} {world : σ} {now : Nat} {r : ScrapeRequest}
  {fs : List Family}

/-- **Distinct names.** No family of an answer has two metrics with the same labels. No name stands
twice where no scraper has run, or where no script says anything under the name of a total. In a
session a name stands twice exactly if something has arrived under the name of a total that is
shown; where none does, name and labels tell all metrics apart. -/
theorem scrape_distinct (hs : e.stats.Reachable)
    (hf : (e.scrape c world now r).result = .families fs) :
    (∀ f ∈ fs, (f.metrics.map (·.labels)).Nodup) ∧
    ((fs.map (·.name)).Nodup → (series fs).Nodup) ∧
    ((e.scrape c world now r).executed = [] → (fs.map (·.name)).Nodup) ∧
    ∀ u : Session e c world now r,
      ((∀ p ∈ u.scripts, ∀ s ∈ Script.emitted p.2.acts, s.desc.name ∉ ScrapeStats.names) →
        (fs.map (·.name)).Nodup) ∧
      ∃ log, u.Log log ∧ ((fs.map (·.name)).Nodup ↔
        ∀ p ∈ log, p.2.desc.name ∉ u.stats.gather.map (·.name)) := by
  have hanswer : (∀ f ∈ fs, (f.metrics.map (·.labels)).Nodup) ∧
      ((e.scrape c world now r).executed = [] → (fs.map (·.name)).Nodup) := by
    have hc := scrape_course e c world now r
    generalize e.scrape c world now r = out at hc hf ⊢
    cases hc with
    | refused | overflow | dropped => cases hf
    | down =>
      cases hf
      rw [finishDown_families]
      exact ⟨fun f hf => FamilyBuilder.nodup_labels_of_mem_finish hf,
        fun _ => FamilyBuilder.nodup_names_finish _⟩
    | up u =>
      cases hf
      refine ⟨u.nodup_labels hs, fun hx => ?_⟩
      have hnone : u.scripts = [] := List.map_eq_nil_iff.1 hx
      exact u.nodup_names (by simp [hnone])
  obtain ⟨hlabels, hnobody⟩ := hanswer
  refine ⟨hlabels, fun hn => nodup_series hn hlabels, hnobody, fun u => ?_⟩
  rw [scrape_session u] at hf
  cases hf
  obtain ⟨log, hl⟩ := u.exists_log
  exact ⟨u.nodup_names, log, hl, Session.nodup_names_iff hl⟩

end Exporter

/-- A scraper that counts the scrapes itself. -/
def countingTasks : List (String × Task) :=
  [("counting", .emit (.gauge "mysql_exporter_scrapes_total" 7) .done)]

/-- The session with its scraper. -/
def Session.counting : Session (.ofTasks countingTasks) (.to .silent) () 0 (.brief "counting") :=
  .ofTasks (by rfl)

theorem scrape_distinct_counting : ∃ fs,
    (Exporter.scrape (.ofTasks countingTasks) (.to .silent) () 0 (.brief "counting")).result =
      .families fs ∧
    (∀ f ∈ fs, (f.metrics.map (·.labels)).Nodup) ∧ ¬ (fs.map (·.name)).Nodup := by
  have hf := Exporter.scrape_result Session.counting
  obtain ⟨hlabels, -, -, hsession⟩ := Exporter.scrape_distinct .new hf
  obtain ⟨-, log, hl, hnames⟩ := hsession Session.counting
  refine ⟨_, hf, hlabels, fun hn => ?_⟩
  have hscript : Session.counting.scripts[0]? =
      some ("counting", ⟨[.emit (.gauge "mysql_exporter_scrapes_total" 7)], .ok⟩) := rfl
  obtain ⟨o, out, elapsed, -, he, hsent⟩ := hl.sent 0 _ _ hscript
  have hmem : (0, Sample.gauge "mysql_exporter_scrapes_total" 7) ∈ log := by
    rw [← mem_sentBy, hsent, he.emitted (Script.clear_of_slept_lt (by decide))]
    simp [Script.within, Script.emitted]
  refine hnames.1 hn _ hmem ?_
  have hname : Naming.join Naming.root "exporter" "scrapes_total" =
      "mysql_exporter_scrapes_total" := by decide
  simp only [ScrapeStats.gather]
  split <;> simp [ScrapeStats.single, Sample.gauge, hname]

/-! ## Is the server up? -/

namespace Exporter

variable {σ : Type} {e : Exporter} {c : Connector σ} {world : σ} {now : Nat} {r : ScrapeRequest}
  {fs : List Family}

theorem up_finish (isUp : Bool) (ss : List Sample) :
    (FamilyBuilder.empty.pushAll (Meta.up isUp :: ss)).finish.filter
        (fun f => f.name = Meta.upDesc.name) =
      [⟨Meta.upDesc.name, Meta.upDesc.help, .gauge, [⟨[], .scalar (Meta.flag isUp)⟩]⟩] :=
  FamilyBuilder.finish_filter_first (s := Meta.up isUp)
    (by simp [Meta.up, Meta.upDesc, Desc.labelNames]) ss

/-- **Up.** Every answer has exactly one family `mysql_up`, a gauge with one metric without labels.
It is one if a server was reached by the deadline, and zero otherwise, whatever scrapers say under
this name. Where it is zero there is no other family, no scraper has run, no query was sent, and the
scrape counts as failed. -/
theorem scrape_up (hf : (e.scrape c world now r).result = .families fs) :
    ∃ isUp : Bool,
      (isUp = true ↔ (c.acquire r.target world).1.server.isSome = true ∧
        (c.acquire r.target world).1.delay ≤ r.timeout.ceilMillis) ∧
      fs.filter (fun f => f.name = "mysql_up") =
        [⟨"mysql_up", "Whether the MySQL server is up.", .gauge,
          [⟨[], .scalar (if isUp then 1 else 0)⟩]⟩] ∧
      (isUp = false → (∀ f ∈ fs, f.name = "mysql_up") ∧
        (e.scrape c world now r).executed = [] ∧ (e.scrape c world now r).queries = [] ∧
        readings (e.scrape c world now r).exporter.stats.gather
          "mysql_exporter_last_scrape_error" []
          = [.scalar 1]) := by
  have hname : Meta.upDesc.name = "mysql_up" := by rfl
  have hvalue : ∀ b, Meta.flag b = if b then 1 else 0 := by
    intro b
    cases b <;> rfl
  have hc := scrape_course e c world now r
  generalize e.scrape c world now r = out at hc hf ⊢
  cases hc with
  | refused | overflow | dropped => cases hf
  | down _ hr =>
    cases hf
    have hnot : ¬ (reached now (now + r.timeout.ceilMillis)
        (c.acquire r.target world).1).1.isSome = true := by simp [hr]
    rw [reached_isSome] at hnot
    refine ⟨false, by simpa using hnot, ?_, fun _ => ⟨?_, rfl, rfl, ?_⟩⟩
    · have := up_finish false []
      rw [hvalue] at this
      exact this
    · intro f hf
      rw [finishDown_families] at hf
      obtain ⟨-, s, hs, hn, -⟩ := FamilyBuilder.exists_sample_of_mem_finish hf
      rw [List.mem_singleton] at hs
      subst hs
      exact hn.symm.trans hname
    · rw [ScrapeStats.readings_lastFailed]
      rfl
  | up u =>
    cases hf
    have hreached : (reached now (now + r.timeout.ceilMillis)
        (c.acquire r.target world).1).1.isSome = true := by simp [u.reached]
    rw [reached_isSome] at hreached
    refine ⟨true, by simpa using hreached, ?_, fun h => by cases h⟩
    obtain ⟨log, hl⟩ := u.exists_log
    have hgather : u.stats.gather.filter (fun f => f.name = "mysql_up") = [] := by
      refine List.filter_eq_nil_iff.2 fun f hf hn => ?_
      exact ScrapeStats.name_ne_up hf (of_decide_eq_true hn)
    have := up_finish true (log.map (·.2))
    rw [hvalue] at this
    rw [Session.families_of_log hl, List.filter_append, hgather, List.append_nil]
    exact this

end Exporter

/-- A scraper that says twice that the server is down. -/
def lyingTasks : List (String × Task) :=
  [("lying", .emit (Meta.up false) (.emit (.gauge "mysql_up" 0) .done))]

/-- The session with its scraper. -/
def Session.lying : Session (.ofTasks lyingTasks) (.to .silent) () 0 (.brief "lying") :=
  .ofTasks (by rfl)

theorem scrape_up_lying : ∃ fs,
    (Exporter.scrape (.ofTasks lyingTasks) (.to .silent) () 0 (.brief "lying")).result =
      .families fs ∧
    fs.filter (fun f => f.name = "mysql_up") =
      [⟨"mysql_up", "Whether the MySQL server is up.", .gauge, [⟨[], .scalar 1⟩]⟩] := by
  have hf := Exporter.scrape_result Session.lying
  obtain ⟨isUp, hup, hfamily, -⟩ := Exporter.scrape_up hf
  have hone : isUp = true := hup.2 ⟨rfl, by decide⟩
  subst hone
  exact ⟨_, hf, hfamily⟩

end MysqlMetrics
