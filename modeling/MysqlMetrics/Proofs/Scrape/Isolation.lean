import MysqlMetrics.Proofs.Scrape.Reports
/-!
# Isolation of scrapers

Scrapers share a sink, a reader and a limit, and yet nothing that one of them does changes what
another has to say. What a scraper has told under names of its own is the first part of its script,
up to the sleep that goes past the limit, in its order.
-/
namespace MysqlMetrics

open Script

/-- The names under which a script says something. -/
def Script.names (script : Script) : List String := (emitted script.acts).map (·.desc.name)

/-- The names under which the exporter itself says something. -/
def Exporter.ownNames : List String :=
  [Meta.upDesc.name, Meta.durationDesc.name, Meta.successDesc.name] ++ ScrapeStats.names

theorem Meta.name_of_mem_report {scraper : String} {millis : Nat} {ok : Bool} {s : Sample}
    (h : s ∈ report scraper millis ok) : s.desc.name ∈ Exporter.ownNames := by
  have hnames : ∀ d ∈ reports, d.name ∈ Exporter.ownNames := by decide
  exact hnames _ (desc_mem_reports h)

namespace Session

variable {σ : Type} {e : Exporter} {c : Connector σ} {world : σ} {now : Nat} {r : ScrapeRequest}
  {allowed : Scraper → Prop} {log : List (Nat × Sample)} {name : String} {script : Script}

/-- No other script says anything under a script's names, and neither does the exporter. -/
structure Apart (u : Session e c world now r) (name : String) (script : Script) : Prop where
  others : ∀ p ∈ u.scripts, p.1 ≠ name → ∀ s ∈ emitted p.2.acts, s.desc.name ∉ script.names
  own : ∀ n ∈ Exporter.ownNames, n ∉ script.names

/-- What is logged under a scraper's names is what the scraper has sent under them. -/
theorem log_filter_names (hw : e.registry.WellFormed allowed) {u : Session e c world now r}
    (hl : u.Log log) (ha : u.Apart name script) {i : Nat}
    (hi : u.scripts[i]? = some (name, script)) :
    (log.map (·.2)).filter (fun s => script.names.contains s.desc.name) =
      (sentBy i log).filter fun s => script.names.contains s.desc.name := by
  have hown : ∀ p ∈ log, p.2.desc.name ∈ script.names → p.1 = i := by
    intro p hp hn
    obtain ⟨name', script', hj, hs | ⟨o, elapsed, -, -, hs⟩⟩ := hl.cases (i := p.1) (s := p.2) hp
    · by_cases hname : name' = name
      · subst hname
        exact index_eq hw u hj hi
      · exact absurd hn (ha.others _ (List.mem_of_getElem? hj) hname _ hs)
    · exact absurd hn (ha.own _ (Meta.name_of_mem_report hs))
  rw [sentBy, List.filter_map, List.filter_map, List.filter_filter]
  congr 1
  refine List.filter_congr fun p hp => ?_
  by_cases hn : p.2.desc.name ∈ script.names
  · simp [hn, hown p hp hn]
  · simp [hn]

/-- The families under a scraper's names are made of what its script emits within the limit. -/
theorem families_filter_names (hw : e.registry.WellFormed allowed) {u : Session e c world now r}
    (hl : u.Log log) (ha : u.Apart name script) (hc : script.Clear u.limit) {i : Nat}
    (hi : u.scripts[i]? = some (name, script)) :
    u.families.filter (fun f => script.names.contains f.name) =
      (FamilyBuilder.empty.pushAll (emitted (within u.limit script.acts))).finish := by
  have hgather : u.stats.gather.filter (fun f => script.names.contains f.name) = [] := by
    refine List.filter_eq_nil_iff.2 fun f hf hn => ?_
    have hmem : f.name ∈ Exporter.ownNames :=
      List.mem_append_right _ (ScrapeStats.name_of_mem_gather hf)
    exact ha.own _ hmem (by simpa using hn)
  have hup : script.names.contains (Meta.up true).desc.name = false := by
    have := ha.own Meta.upDesc.name (by simp [Exporter.ownNames])
    simpa [Meta.up] using this
  obtain ⟨o, out, elapsed, -, he, hsent⟩ := hl.sent i name script hi
  have hout : out.filter (fun s => script.names.contains s.desc.name) = out := by
    refine List.filter_eq_self.2 fun s hs => ?_
    have := List.mem_map_of_mem (f := fun s : Sample => s.desc.name) (he.sublist.subset hs)
    simpa [names] using this
  have htold : (if o = .panicked then [] else Meta.report name elapsed o.isOk).filter
      (fun s => script.names.contains s.desc.name) = [] := by
    refine List.filter_eq_nil_iff.2 fun s hs hn => ?_
    split at hs
    · cases hs
    · exact ha.own _ (Meta.name_of_mem_report hs) (by simpa using hn)
  rw [families, List.filter_append, hgather, List.append_nil, hl.families,
    FamilyBuilder.finish_restrict (fun n => script.names.contains n), List.filter_cons]
  simp only [hup, Bool.false_eq_true, if_false]
  rw [log_filter_names hw hl ha hi, hsent, List.filter_append, hout, htold, List.append_nil,
    he.emitted hc]

end Session

/-- **Isolation.** Whatever the other scrapers of a session do, and in whatever order all take
turns, a scraper with names of its own that never has slept for exactly the limit leaves under its
names the families of what it emits within the limit. What is shown of its success is what has
arrived first about it. Unless the scraper panics in time, that is whether its script ends well
before the limit, as long as no script disputes it. -/
theorem Exporter.scrape_isolated {σ : Type} {e : Exporter} {c : Connector σ} {world : σ} {now : Nat}
    {r : ScrapeRequest} {allowed : Scraper → Prop} (hw : e.registry.Reachable allowed)
    (u : Session e c world now r) {name : String} {script : Script}
    (hs : (name, script) ∈ u.scripts) (ha : u.Apart name script) (hc : script.Clear u.limit) :
    ∃ fs log, (e.scrape c world now r).result = .families fs ∧ u.Log log ∧
      fs.filter (fun f => script.names.contains f.name) =
        (FamilyBuilder.empty.pushAll (emitted (within u.limit script.acts))).finish ∧
      readings fs Meta.successDesc.name (Meta.labels name) =
        Session.shown log Meta.successDesc.name name ∧
      ((∀ message, script.ending = .panicked message → u.limit < slept script.acts) →
        u.Undisputed Meta.successDesc name →
        readings fs Meta.successDesc.name (Meta.labels name) =
          [.scalar (Meta.flag (script.ending = .ok ∧ slept script.acts < u.limit))]) := by
  obtain ⟨log, hl⟩ := u.exists_log
  obtain ⟨i, hi⟩ := List.mem_iff_getElem?.1 hs
  obtain ⟨o, out, elapsed, -, he, hsent⟩ := hl.sent i name script hi
  have hreport : Meta.successDesc ∈ Meta.reports := by simp [Meta.reports]
  rw [scrape_session u]
  refine ⟨u.families, log, rfl, hl, Session.families_filter_names hw.wellFormed hl ha hc hi,
    Session.readings_families hl hreport name, fun hp hu => ?_⟩
  have hpanic : o ≠ .panicked := by
    intro ho
    obtain ⟨hcut, message, hm⟩ := he.panicked_iff.1 ho
    have := he.slept_le hcut
    have := hp message hm
    omega
  have hok : o.isOk = decide (script.ending = .ok ∧ slept script.acts < u.limit) := by
    rw [Bool.eq_iff_iff, he.isOk_iff hc, decide_eq_true_eq]
  have hshown := Session.readings_executed hw.wellFormed hl hreport hu hi he hsent
  rw [if_neg hpanic] at hshown
  rw [← hok]
  exact hshown

/-- One scraper says something, waits and fails, while another hangs. -/
def hangingTasks : List (String × Task) :=
  [("brief", .emit (.gauge "brief" 1) (.sleep 5 (.fail "no"))),
   ("endless", .emit (.gauge "endless" 2) (.sleep 5000 .done))]

def Session.hanging :
    Session (.ofTasks hangingTasks) (.to .silent) () 0 (.brief "brief,endless") where
  entries := hangingTasks.map fun p => ⟨.ofTask p.1 p.2, true, true, none⟩
  server := .silent
  start := 0
  resolved := rfl
  reached := rfl
  moment := by decide

theorem scrape_isolated_hanging : ∃ fs,
    (Exporter.scrape (.ofTasks hangingTasks) (.to .silent) () 0 (.brief "brief,endless")).result =
      .families fs ∧
    fs.filter (fun f => ["brief"].contains f.name) = [⟨"brief", "", .gauge, [⟨[], .scalar 1⟩]⟩] ∧
    readings fs Meta.successDesc.name (Meta.labels "brief") = [.scalar (Meta.flag false)] := by
  have hscripts : Session.hanging.scripts =
      [("brief", ⟨[.emit (.gauge "brief" 1), .sleep 5], .failed "no"⟩),
        ("endless", ⟨[.emit (.gauge "endless" 2), .sleep 5000], .ok⟩)] := rfl
  have ha : Session.hanging.Apart "brief"
      ⟨[.emit (.gauge "brief" 1), .sleep 5], .failed "no"⟩ := by
    refine ⟨fun p hp hn s hs => ?_, by decide⟩
    rw [hscripts] at hp
    simp only [List.mem_cons, List.not_mem_nil, or_false] at hp
    rcases hp with rfl | rfl
    · exact absurd rfl hn
    · simp only [emitted, List.filterMap, List.mem_cons, List.not_mem_nil, or_false] at hs
      subst hs
      decide
  have hu : Session.hanging.Undisputed Meta.successDesc "brief" := by
    intro p hp s hs hn
    rw [hscripts] at hp
    simp only [List.mem_cons, List.not_mem_nil, or_false] at hp
    rcases hp with rfl | rfl <;>
      simp only [emitted, List.filterMap, List.mem_cons, List.not_mem_nil, or_false] at hs <;>
      subst hs <;> exact absurd hn (by decide)
  obtain ⟨fs, -, hf, -, hfamilies, -, hsuccess⟩ := Exporter.scrape_isolated
    (Exporter.reachable_ofTasks _) Session.hanging (by rw [hscripts]; exact List.mem_cons_self) ha
    (clear_of_slept_lt (by decide))
  refine ⟨fs, hf, hfamilies.trans ?_, hsuccess (fun _ h => by cases h) hu⟩
  have hlimit : Session.hanging.limit = 1000 := rfl
  simp [hlimit, within, emitted, FamilyBuilder.pushAll, FamilyBuilder.push, FamilyBuilder.entryFor,
    FamilyBuilder.empty, FamilyBuilder.finish, FamilyBuilder.FamilyEntry.accepts, Desc.agrees_refl,
    SortedTable.has, SortedTable.insert, SortedTable.upsert, SortedTable.values, Sample.toMetric,
    Sample.labelPairs, Sample.gauge]

end MysqlMetrics
