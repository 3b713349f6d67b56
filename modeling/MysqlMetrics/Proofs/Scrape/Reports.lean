import MysqlMetrics.Proofs.Families
import MysqlMetrics.Proofs.Scrape.Session
/-!
# Reports of scrapers

Every scraper that runs to an end reports for how long it ran and whether it succeeded; one that
panics reports nothing. What is shown under the two names of the reports is the reports, as long as
no script says anything of its own there (`Session.Undisputed`).
-/
namespace MysqlMetrics

open SortedTable

/-- The names under which the exporter shows its totals. -/
def ScrapeStats.names : List String :=
  [Naming.join Naming.root "exporter" "last_scrape_error",
   Naming.join Naming.root "exporter" "scrape_errors_total",
   Naming.join Naming.root "exporter" "scrapes_total"]

theorem ScrapeStats.name_of_mem_gather {s : ScrapeStats} {f : Family} (h : f ∈ s.gather) :
    f.name ∈ names := by
  simp only [gather] at h
  split at h <;> simp only [List.mem_cons, List.not_mem_nil, or_false] at h
  · rcases h with rfl | rfl <;> simp [names, single]
  · rcases h with rfl | rfl | rfl <;> simp [names, single]

namespace Meta

/-- The descriptors of a report. -/
def reports : List Desc := [durationDesc, successDesc]

variable {d : Desc} {scraper : String}

theorem name_ne_up : ∀ d ∈ reports, d.name ≠ upDesc.name := by decide

theorem name_not_mem_totals : ∀ d ∈ reports, d.name ∉ ScrapeStats.names := by decide

theorem desc_mem_reports {millis : Nat} {ok : Bool} {s : Sample}
    (h : s ∈ report scraper millis ok) : s.desc ∈ reports := by
  simp only [report, List.mem_cons, List.not_mem_nil, or_false] at h
  rcases h with rfl | rfl <;> simp [reports]

/-- The labels of what is said about a scraper. -/
def labels (scraper : String) : List (String × String) := [("collector", scraper)]

theorem labelPairs_of_mem_report {millis : Nat} {ok : Bool} {s : Sample}
    (h : s ∈ report scraper millis ok) : s.labelPairs = labels scraper := by
  simp only [report, List.mem_cons, List.not_mem_nil, or_false] at h
  rcases h with rfl | rfl <;>
    simp [Sample.labelPairs, labels, durationDesc, successDesc]

theorem labelKey_of_mem_report {millis : Nat} {ok : Bool} {s : Sample}
    (h : s ∈ report scraper millis ok) : s.labelKey = [scraper] := by
  simp [Sample.labelKey, labelPairs_of_mem_report h, labels]

/-- What a report says under one of its descriptors. -/
def reported (d : Desc) (millis : Nat) (ok : Bool) : Float :=
  if d = durationDesc then (Duration.ofMillis millis).toSeconds else flag ok

/-- A report says one thing under each of its names. -/
theorem exists_mem_report (h : d ∈ reports) (scraper : String) (millis : Nat) (ok : Bool) :
    ∃ t ∈ report scraper millis ok, t.desc = d ∧ t.reading = .scalar (reported d millis ok) ∧
      ∀ s ∈ report scraper millis ok, s.desc.name = d.name → s = t := by
  have hne : durationDesc.name ≠ successDesc.name := by decide
  have hne' : successDesc ≠ durationDesc := fun e => hne (congrArg Desc.name e).symm
  simp only [reports, List.mem_cons, List.not_mem_nil, or_false] at h
  rcases h with rfl | rfl
  · refine ⟨_, List.mem_cons_self, rfl, by simp [reported], fun s hs hn => ?_⟩
    simp only [report, List.mem_cons, List.not_mem_nil, or_false] at hs
    rcases hs with rfl | rfl
    · rfl
    · exact absurd hn.symm hne
  · refine ⟨_, List.mem_cons_of_mem _ List.mem_cons_self, rfl, by simp [reported, hne'],
      fun s hs hn => ?_⟩
    simp only [report, List.mem_cons, List.not_mem_nil, or_false] at hs
    rcases hs with rfl | rfl
    · exact absurd hn hne
    · rfl

end Meta

theorem find?_eq_some_of_unique {α : Type} {p : α → Bool} {l : List α} {x : α} (hx : x ∈ l)
    (hp : p x = true) (hu : ∀ y ∈ l, p y = true → y = x) : l.find? p = some x := by
  cases hf : l.find? p with
  | none => exact absurd hp (List.find?_eq_none.1 hf x hx)
  | some y => rw [hu y (List.mem_of_find?_eq_some hf) (List.find?_some hf)]

namespace Session

variable {σ : Type} {e : Exporter} {c : Connector σ} {world : σ} {now : Nat} {r : ScrapeRequest}
  {allowed : Scraper → Prop} {log : List (Nat × Sample)} {d : Desc} {name : String}

/-- No script says anything about a scraper under a descriptor of reports, or spoils the
descriptor. -/
def Undisputed (u : Session e c world now r) (d : Desc) (name : String) : Prop :=
  ∀ p ∈ u.scripts, ∀ s ∈ Script.emitted p.2.acts, s.desc.name = d.name →
    d.agrees s.desc = true ∧ s.labelKey ≠ [name]

/-- What is logged is emitted by a script, or is in the report of a scraper that did not panic. -/
theorem Log.cases {u : Session e c world now r} (hl : u.Log log) {i : Nat} {s : Sample}
    (h : (i, s) ∈ log) : ∃ name script, u.scripts[i]? = some (name, script) ∧
      (s ∈ Script.emitted script.acts ∨ ∃ o elapsed, u.final.outcomes[i]? = some (name, o) ∧
        o ≠ .panicked ∧ s ∈ Meta.report name elapsed o.isOk) := by
  have hi : i < u.scripts.length := hl.numbers _ h
  refine ⟨u.scripts[i].1, u.scripts[i].2, List.getElem?_eq_getElem hi, ?_⟩
  obtain ⟨o, out, elapsed, ho, he, hs⟩ := hl.sent i _ _ (List.getElem?_eq_getElem hi)
  have hmem : s ∈ sentBy i log := mem_sentBy.2 h
  rw [hs] at hmem
  rcases List.mem_append.1 hmem with hout | htold
  · exact .inl (he.sublist.subset hout)
  · split at htold
    · cases htold
    · rename_i hp
      exact .inr ⟨o, elapsed, ho, hp, htold⟩

/-- What is logged about a scraper under the descriptor is logged by the scraper. -/
theorem Log.own {u : Session e c world now r} (hl : u.Log log) (hd : u.Undisputed d name) {i : Nat}
    {s : Sample} (h : (i, s) ∈ log) (hn : s.desc.name = d.name) (hk : s.labelKey = [name]) :
    ∃ script, u.scripts[i]? = some (name, script) := by
  obtain ⟨name', script, hi, hs | ⟨o, elapsed, -, -, hs⟩⟩ := hl.cases h
  · exact absurd hk (hd _ (List.mem_of_getElem? hi) s hs hn).2
  · rw [Meta.labelKey_of_mem_report hs, List.cons.injEq] at hk
    exact ⟨script, hk.1 ▸ hi⟩

theorem readings_gather (hr : d ∈ Meta.reports) (stats : ScrapeStats)
    (labels : List (String × String)) : readings stats.gather d.name labels = [] := by
  refine readings_eq_nil (fun f hf he => ?_) _
  exact Meta.name_not_mem_totals d hr (he ▸ ScrapeStats.name_of_mem_gather hf)

/-- What stays of a log about a scraper under a name: the first sample about it, of those that
agree with the first under the name. -/
def shown (log : List (Nat × Sample)) (n scraper : String) : List Reading :=
  ((kept (log.map (·.2)) n [scraper]).toList.filter fun s =>
    s.labelPairs = Meta.labels scraper).map (·.reading)

/-- What is shown under the names of reports is what has arrived first, whoever said it. -/
theorem readings_families {u : Session e c world now r} (hl : u.Log log) (hr : d ∈ Meta.reports)
    (name : String) : readings u.families d.name (Meta.labels name) = shown log d.name name := by
  have hup : (Meta.up true).desc.name ≠ d.name := (Meta.name_ne_up d hr).symm
  rw [families, readings_append, readings_gather hr, List.append_nil, hl.families,
    readings_finish, kept_cons_of_ne hup]
  rfl

/-- Where nothing is disputed, the first sample about a scraper stays. -/
theorem shown_of_undisputed {u : Session e c world now r} (hl : u.Log log) (hr : d ∈ Meta.reports)
    (hd : u.Undisputed d name) : shown log d.name name =
      (((log.map (·.2)).find? fun s => s.desc.name = d.name && s.labelKey == [name]).toList.filter
        fun s => s.labelPairs = Meta.labels name).map (·.reading) := by
  have hagree : ∀ s ∈ log.map (·.2), s.desc.name = d.name → d.agrees s.desc = true := by
    intro s hs hn
    obtain ⟨⟨i, s⟩, hp, rfl⟩ := List.mem_map.1 hs
    obtain ⟨name', script, hi, hs | ⟨o, elapsed, -, -, hs⟩⟩ := hl.cases hp
    · exact (hd _ (List.mem_of_getElem? hi) s hs hn).1
    · obtain ⟨t, -, ht, -, hu⟩ := Meta.exists_mem_report hr name' elapsed o.isOk
      rw [hu s hs hn, ht]
      exact Desc.agrees_refl d
  rw [shown, kept_of_agrees hagree]

/-- What is shown about a scraper that ran is its own report, if it made one. -/
theorem readings_executed (hw : e.registry.WellFormed allowed) {u : Session e c world now r}
    (hl : u.Log log) (hr : d ∈ Meta.reports) (hd : u.Undisputed d name) {i : Nat} {script : Script}
    {o : Outcome} {out : List Sample} {elapsed : Nat} (hi : u.scripts[i]? = some (name, script))
    (he : Script.Ended u.limit script out o elapsed)
    (hs : sentBy i log = out ++ if o = .panicked then [] else Meta.report name elapsed o.isOk) :
    readings u.families d.name (Meta.labels name) =
      if o = .panicked then [] else [.scalar (Meta.reported d elapsed o.isOk)] := by
  rw [readings_families hl hr, shown_of_undisputed hl hr hd]
  -- what is found of the scraper is in its report
  have hown : ∀ s ∈ log.map (·.2), (s.desc.name = d.name && s.labelKey == [name]) = true →
      s.desc.name = d.name ∧
        s ∈ if o = .panicked then [] else Meta.report name elapsed o.isOk := by
    intro s hs' hp
    obtain ⟨⟨j, s⟩, hmem, rfl⟩ := List.mem_map.1 hs'
    simp only [Bool.and_eq_true, decide_eq_true_eq, beq_iff_eq] at hp
    obtain ⟨script', hj⟩ := hl.own hd hmem hp.1 hp.2
    obtain rfl := index_eq hw u hj hi
    have hsent := mem_sentBy.2 hmem
    rw [hs] at hsent
    refine ⟨hp.1, (List.mem_append.1 hsent).resolve_left fun hout => ?_⟩
    exact (hd _ (List.mem_of_getElem? hi) s (he.sublist.subset hout) hp.1).2 hp.2
  by_cases hpanic : o = .panicked
  · rw [if_pos hpanic, List.find?_eq_none.2]
    · rfl
    · intro s hs' hp
      have := (hown s hs' hp).2
      simp [hpanic] at this
  · rw [if_neg hpanic] at hs ⊢
    obtain ⟨t, ht, htd, htr, hu⟩ := Meta.exists_mem_report hr name elapsed o.isOk
    have hlog : t ∈ log.map (·.2) := by
      refine List.mem_map.2 ⟨(i, t), mem_sentBy.1 ?_, rfl⟩
      rw [hs]
      exact List.mem_append_right _ ht
    rw [find?_eq_some_of_unique hlog (by simp [htd, Meta.labelKey_of_mem_report ht])]
    · simp [Meta.labelPairs_of_mem_report ht, htr]
    · intro s hs' hp
      obtain ⟨hn, hm⟩ := hown s hs' hp
      rw [if_neg hpanic] at hm
      exact hu s hm hn

/-- Nothing is shown about a scraper that did not run. -/
theorem readings_not_executed {u : Session e c world now r} (hl : u.Log log) (hr : d ∈ Meta.reports)
    (hd : u.Undisputed d name) (hn : name ∉ u.scripts.map (·.1)) :
    readings u.families d.name (Meta.labels name) = [] := by
  rw [readings_families hl hr, shown_of_undisputed hl hr hd, List.find?_eq_none.2]
  · rfl
  · intro s hs hp
    obtain ⟨⟨i, s⟩, hmem, rfl⟩ := List.mem_map.1 hs
    simp only [Bool.and_eq_true, decide_eq_true_eq, beq_iff_eq] at hp
    obtain ⟨script, hi⟩ := hl.own hd hmem hp.1 hp.2
    exact hn (List.mem_map.2 ⟨_, List.mem_of_getElem? hi, rfl⟩)

/-- Nothing is shown twice about a scraper, whatever scripts say. -/
theorem length_shown (log : List (Nat × Sample)) (n scraper : String) :
    (shown log n scraper).length ≤ 1 := by
  rw [shown, List.length_map]
  refine Nat.le_trans (List.length_filter_le _ _) ?_
  cases kept (log.map (·.2)) n [scraper] <;> simp

end Session

/-- **Reports.** In a session, every scraper that ran comes to an end of its script within the
limit, and sends what it has emitted by then and a report, or no report if it panicked. What is
shown about a scraper is what has arrived first about it, and nothing twice. So where no script says
anything itself under the descriptors of reports, exactly the report of a scraper is shown, in which
success is that it ended well in time, and nothing about one that panicked or did not run. -/
theorem Exporter.scrape_reports {σ : Type} {e : Exporter} {c : Connector σ} {world : σ} {now : Nat}
    {r : ScrapeRequest} {allowed : Scraper → Prop} (hw : e.registry.Reachable allowed)
    (u : Session e c world now r) :
    ∃ fs log, (e.scrape c world now r).result = .families fs ∧ u.Log log ∧
      (∀ name, ∀ d ∈ Meta.reports, readings fs d.name (Meta.labels name) =
        Session.shown log d.name name ∧ (Session.shown log d.name name).length ≤ 1) ∧
      (∀ name script, (name, script) ∈ u.scripts → ∃ o out elapsed,
        (name, o) ∈ (e.scrape c world now r).outcomes ∧
          Script.Ended u.limit script out o elapsed ∧
          ∀ d ∈ Meta.reports, u.Undisputed d name → readings fs d.name (Meta.labels name) =
            if o = .panicked then [] else [.scalar (Meta.reported d elapsed o.isOk)]) ∧
      ∀ name, name ∉ (e.scrape c world now r).executed →
        ∀ d ∈ Meta.reports, u.Undisputed d name → readings fs d.name (Meta.labels name) = [] := by
  obtain ⟨log, hl⟩ := u.exists_log
  rw [scrape_session u]
  refine ⟨u.families, log, rfl, hl, fun name d hd => ?_, fun name script hs => ?_,
    fun name hn d hd hu => ?_⟩
  · exact ⟨Session.readings_families hl hd name, Session.length_shown log d.name name⟩
  · obtain ⟨i, hi⟩ := List.mem_iff_getElem?.1 hs
    obtain ⟨o, out, elapsed, ho, he, hsent⟩ := hl.sent i name script hi
    refine ⟨o, out, elapsed, List.mem_of_getElem? ho, he, fun d hd hu => ?_⟩
    exact Session.readings_executed hw.wellFormed hl hd hu hi he hsent
  · exact Session.readings_not_executed hl hd hu hn

/-- One scraper ends well and one breaks off. -/
def brokenTasks : List (String × Task) := [("steady", .done), ("broken", .panic "lost")]

def Session.broken :
    Session (.ofTasks brokenTasks) (.to .silent) () 0 (.brief "steady,broken") where
  entries := [⟨.ofTask "broken" (.panic "lost"), true, true, none⟩,
    ⟨.ofTask "steady" .done, true, true, none⟩]
  server := .silent
  start := 0
  resolved := rfl
  reached := rfl
  moment := by decide

theorem scrape_reports_broken : ∃ fs,
    (Exporter.scrape (.ofTasks brokenTasks) (.to .silent) () 0 (.brief "steady,broken")).result =
      .families fs ∧
    readings fs Meta.successDesc.name (Meta.labels "steady") = [.scalar (Meta.flag true)] ∧
    readings fs Meta.successDesc.name (Meta.labels "broken") = [] := by
  have hscripts : Session.broken.scripts =
      [("broken", ⟨[], .panicked "lost"⟩), ("steady", ⟨[], .ok⟩)] := rfl
  have hu : ∀ name, Session.broken.Undisputed Meta.successDesc name := by
    intro name p hp s hs
    rw [hscripts] at hp
    simp only [List.mem_cons, List.not_mem_nil, or_false] at hp
    rcases hp with rfl | rfl <;> simp [Script.emitted] at hs
  obtain ⟨fs, -, hf, -, -, hran, -⟩ :=
    Exporter.scrape_reports (Exporter.reachable_ofTasks _) Session.broken
  refine ⟨fs, hf, ?_, ?_⟩
  · obtain ⟨o, out, elapsed, -, he, hd⟩ := hran "steady" ⟨[], .ok⟩ (by simp [hscripts])
    rw [hd _ (by simp [Meta.reports]) (hu _)]
    cases he with
    | ok => rfl
    | failed he _ | panicked he _ => cases he
    | late ha _ _ | crowdedOut ha _ => simp at ha
  · obtain ⟨o, out, elapsed, -, he, hd⟩ := hran "broken" ⟨[], .panicked "lost"⟩ (by simp [hscripts])
    rw [hd _ (by simp [Meta.reports]) (hu _)]
    cases he with
    | panicked => rfl
    | ok he _ | failed he _ => cases he
    | late ha _ _ | crowdedOut ha _ => simp at ha

end MysqlMetrics
