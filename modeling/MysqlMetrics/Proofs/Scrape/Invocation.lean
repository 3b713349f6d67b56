import MysqlMetrics.Proofs.Exporter
import MysqlMetrics.Proofs.Lists
/-!
# Who runs

A scraper is due in a scrape (`Exporter.Due`) if the request is accepted and asks for it, and a
server that is recent enough for it is reached in time. The scrapers that are due are spawned, each
once, and no other. They run if there is a moment at which the reader gives up
(`Exporter.HasHardStop`); that there is none is noticed only after they were spawned, and then they
are dropped, begun or not (`Exporter.scrape_invokes`).
-/
namespace MysqlMetrics

open SortedTable

namespace Machine

variable {m m' : Machine}

/-- Nobody joins the workers, and nobody leaves them. -/
theorem names_step {choice : Choice} (h : m.step choice = some m') :
    m'.workers.map (·.name) = m.workers.map (·.name) := by
  cases choice with
  | work i =>
    obtain ⟨w, moved, hw, ht, rfl⟩ := work_eq_some h
    exact map_set_eq hw ht.name_eq
  | drain => obtain ⟨-, s, rest, -, rfl⟩ := drain_eq_some h; rfl
  | stop => obtain ⟨-, -, rfl⟩ := stop_eq_some h; rfl
  | wait => obtain ⟨-, t, -, rfl⟩ := wait_eq_some h; rfl

theorem names_of_reaches (h : Reaches m m') : m'.workers.map (·.name) = m.workers.map (·.name) := by
  induction h with
  | refl => rfl
  | move choice _ hs ih => exact (names_step hs).trans ih

end Machine

namespace Session

variable {σ : Type} {e : Exporter} {c : Connector σ} {world : σ} {now : Nat} {r : ScrapeRequest}

/-- Every script has a worker, and each of them an outcome. -/
theorem outcomes_names (u : Session e c world now r) :
    u.final.outcomes.map (·.1) = u.scripts.map (·.1) := by
  have hnew : (Machine.new u.start u.deadline u.scripts).workers.map (·.name) =
      u.scripts.map (·.1) := by
    simp [Machine.new, Worker.ofScript, Function.comp_def]
  calc u.final.outcomes.map (·.1)
    _ = u.final.workers.map (·.name) := by simp [Machine.outcomes, Function.comp_def]
    _ = (Machine.new u.start u.deadline u.scripts).workers.map (·.name) :=
      Machine.names_of_reaches (e.schedule.reaches _)
    _ = u.scripts.map (·.1) := hnew

end Session

namespace Exporter

variable {σ : Type} {e : Exporter} {c : Connector σ} {world : σ} {now : Nat} {r : ScrapeRequest}
  {allowed : Scraper → Prop} {x : RegistryEntry} {s : Server} {entries : List RegistryEntry}

/-- The scrape has this server by its deadline. It asks for none if its deadline is no moment. -/
structure Acquires (c : Connector σ) (world : σ) (now : Nat) (r : ScrapeRequest) (s : Server) :
    Prop where
  deadline : isMoment now r.timeout = true
  server : (c.acquire r.target world).1.server = some s
  inTime : (c.acquire r.target world).1.delay ≤ r.timeout.ceilMillis

/-- What has to come together for a scraper to run. -/
structure Due (e : Exporter) (c : Connector σ) (world : σ) (now : Nat) (r : ScrapeRequest)
    (x : RegistryEntry) : Prop where
  accepted : e.Accepts c r
  selected : e.Selects r.collect x
  acquired : ∃ s, Acquires c world now r s ∧ x.scraper.minVersion.AtMost s.info.version

/-- Is there a moment at which the reader gives up? -/
def HasHardStop (now : Nat) (r : ScrapeRequest) : Prop :=
  isMoment now ⟨r.timeout.nanos + grace.nanos⟩ = true

instance : Decidable (HasHardStop now r) := inferInstanceAs (Decidable (_ = true))

theorem acquires_iff : Acquires c world now r s ↔ isMoment now r.timeout = true ∧
    (reached now (now + r.timeout.ceilMillis) (c.acquire r.target world).1).1 = some s := by
  rw [reached_eq_some]
  constructor
  · rintro ⟨hd, hs, ht⟩
    exact ⟨hd, hs, ht⟩
  · rintro ⟨hd, hs, ht⟩
    exact ⟨hd, hs, ht⟩

/-- Without a deadline no server is asked for. -/
theorem world_scrape (h : isMoment now r.timeout = false) :
    (e.scrape c world now r).world = world := by
  cases hr : e.resolve c r with
  | error err => simp [scrape, hr]
  | ok entries => simp [scrape, hr, h]

/-- Who is due does not depend on the order in which scrapers take turns. -/
theorem Due.schedule (h : e.Due c world now r x) (schedule : Machine.Schedule) :
    { e with schedule := schedule }.Due c world now r x :=
  ⟨h.accepted, h.selected, h.acquired⟩

/-- With a server, those are due that are eligible. -/
theorem mem_eligible_iff_due (hw : e.registry.WellFormed allowed) (h : e.resolve c r = .ok entries)
    (ha : Acquires c world now r s) : x ∈ eligible s entries ↔ e.Due c world now r x := by
  rw [(eligible_spec hw s h).2]
  constructor
  · rintro ⟨hsel, hv⟩
    exact ⟨exists_resolve_iff.1 ⟨_, h⟩, hsel, s, ha, hv⟩
  · rintro ⟨-, hsel, s', ha', hv⟩
    obtain rfl : s' = s := Option.some.inj (ha'.server.symm.trans ha.server)
    exact ⟨hsel, hv⟩

/-- What becomes of the scrapers that are due, in the order of their names. They run; or, without a
hard stop, they are dropped once they are spawned, when some of them have begun. -/
structure Invoked (e : Exporter) (c : Connector σ) (world : σ) (now : Nat) (r : ScrapeRequest)
    (due : List RegistryEntry) (out : ScrapeOutcome σ) : Prop where
  inOrder : Registry.InOrder due
  mem_due : ∀ x, x ∈ due ↔ e.Due c world now r x
  ran : HasHardStop now r → out.executed = due.map (·.scraper.name) ∧
    out.outcomes.map (·.1) = due.map (·.scraper.name) ∧
    ∀ s, (c.acquire r.target world).1.server = some s →
      out.queries = due.flatMap fun x => (x.unrolled s e.caches).queries
  dropped : ¬ HasHardStop now r → out.executed = e.schedule.begun (due.map (·.scraper.name))

theorem Invoked.nobody {out : ScrapeOutcome σ} (hdue : ∀ x, ¬ e.Due c world now r x)
    (hrun : out.executed = []) (hout : out.outcomes = []) (hq : out.queries = []) :
    Invoked e c world now r [] out where
  inOrder := .nil
  mem_due x := iff_of_false List.not_mem_nil (hdue x)
  ran _ := ⟨hrun, by rw [hout]; rfl, fun _ _ => hq⟩
  dropped _ := hrun.trans (List.sublist_nil.1 (e.schedule.begun_sublist [])).symm

theorem invoked_scrape (c : Connector σ) (world : σ) (now : Nat) (r : ScrapeRequest)
    (hw : e.registry.WellFormed allowed) :
    ∃ due, Invoked e c world now r due (e.scrape c world now r) := by
  have hc := scrape_course e c world now r
  generalize e.scrape c world now r = out at hc ⊢
  cases hc with
  | refused h =>
    refine ⟨[], .nobody (fun x hx => ?_) rfl rfl rfl⟩
    obtain ⟨entries, hok⟩ := exists_resolve_iff.2 hx.accepted
    rw [h] at hok
    cases hok
  | overflow h =>
    refine ⟨[], .nobody (fun x hx => ?_) rfl rfl rfl⟩
    obtain ⟨s, ha, -⟩ := hx.acquired
    rw [ha.deadline] at h
    cases h
  | down h hr =>
    refine ⟨[], .nobody (fun x hx => ?_) rfl rfl rfl⟩
    obtain ⟨s, ha, -⟩ := hx.acquired
    have hs := (acquires_iff.1 ha).2
    rw [hr] at hs
    cases hs
  | @dropped entries s later h hd hr hg =>
    have ha : Acquires c world now r s := acquires_iff.2 ⟨hd, congrArg Prod.fst hr⟩
    refine ⟨eligible s entries, (eligible_spec hw s h).1, fun x => mem_eligible_iff_due hw h ha,
      fun hstop => ?_, fun _ => rfl⟩
    rw [HasHardStop, hg] at hstop
    cases hstop
  | up u =>
    have hd : isMoment now r.timeout = true := isMoment_mono u.moment (Nat.le_add_right _ _)
    have ha : Acquires c world now r u.server := acquires_iff.2 ⟨hd, congrArg Prod.fst u.reached⟩
    have hin := Session.executed_inOrder hw u
    refine ⟨u.executed, hin, fun x => mem_eligible_iff_due hw u.resolved ha, fun _ => ?_,
      fun hno => absurd u.moment hno⟩
    refine ⟨u.scripts_names, u.outcomes_names.trans u.scripts_names, fun s hs => ?_⟩
    obtain rfl : u.server = s := Option.some.inj (ha.server.symm.trans hs)
    exact (Session.unroll_eq u.server e.caches hin).2

section

variable {due : List RegistryEntry} {out : ScrapeOutcome σ}

/-- Whatever becomes of a scrape, those that begin are due. -/
theorem Invoked.sublist (h : Invoked e c world now r due out) :
    out.executed.Sublist (due.map (·.scraper.name)) := by
  by_cases hstop : HasHardStop now r
  · rw [(h.ran hstop).1]
  · rw [h.dropped hstop]
    exact e.schedule.begun_sublist _

theorem Invoked.count_le_one (h : Invoked e c world now r due out) (name : String) :
    out.executed.count name ≤ 1 :=
  List.nodup_iff_count_le_one.1 (h.inOrder.nodup_names.sublist h.sublist) name

theorem Invoked.count_eq_zero (h : Invoked e c world now r due out)
    (hw : e.registry.WellFormed allowed) (hx : x ∈ values e.registry.entries)
    (hnot : ¬ e.Due c world now r x) : out.executed.count x.scraper.name = 0 := by
  rw [List.count_eq_zero]
  intro hmem
  obtain ⟨y, hy, hname⟩ := List.mem_map.1 (h.sublist.subset hmem)
  have hdue := (h.mem_due y).1 hy
  -- no two registered scrapers have one name
  have hsame := (hw.find?_entry hdue.selected.1).symm.trans (hname ▸ hw.find?_entry hx)
  cases hsame
  exact hnot hdue

theorem Invoked.count_eq_one (h : Invoked e c world now r due out) (hstop : HasHardStop now r)
    (hx : e.Due c world now r x) : out.executed.count x.scraper.name = 1 := by
  rw [(h.ran hstop).1]
  exact List.count_eq_one_of_mem h.inOrder.nodup_names (List.mem_map_of_mem ((h.mem_due x).2 hx))

end

/-- **Who runs.** A registered scraper that is not due does not run, and none runs twice. One that
is due runs exactly once, whoever takes turns when, if and only if there is a moment at which the
reader gives up: otherwise it is dropped, perhaps before it has begun. Where there is such a moment
nothing else runs: what comes out of a scrape are the outcomes of those that are due, and what a
server is asked is what they ask. A scrape whose deadline is no moment does not even connect. No
scrape changes the registry. -/
theorem scrape_invokes (c : Connector σ) (world : σ) (now : Nat) (r : ScrapeRequest)
    (hr : e.registry.Reachable allowed) :
    (∀ x ∈ values e.registry.entries,
      (¬ e.Due c world now r x → (e.scrape c world now r).executed.count x.scraper.name = 0) ∧
      (e.scrape c world now r).executed.count x.scraper.name ≤ 1 ∧
      (e.Due c world now r x →
        ((∀ schedule, ({ e with schedule := schedule }.scrape c world now r).executed.count
          x.scraper.name = 1) ↔ HasHardStop now r))) ∧
    (HasHardStop now r → ∃ due : List RegistryEntry, (∀ x, x ∈ due ↔ e.Due c world now r x) ∧
      (e.scrape c world now r).executed = due.map (·.scraper.name) ∧
      (e.scrape c world now r).outcomes.map (·.1) = due.map (·.scraper.name) ∧
      ∀ s, (c.acquire r.target world).1.server = some s →
        (e.scrape c world now r).queries = due.flatMap fun x => (x.unrolled s e.caches).queries) ∧
    (isMoment now r.timeout = false → (e.scrape c world now r).world = world) ∧
    (e.scrape c world now r).exporter.registry = e.registry := by
  have hw := hr.wellFormed
  obtain ⟨due, hinv⟩ := invoked_scrape c world now r hw
  refine ⟨fun x hx => ⟨hinv.count_eq_zero hw hx, hinv.count_le_one _, fun hdue => ?_⟩,
    fun hstop => ⟨due, hinv.mem_due, hinv.ran hstop⟩, world_scrape, registry_scrape⟩
  · constructor
    · intro hall
      by_contra hno
      -- on one thread nobody has begun when the scrapers are dropped
      obtain ⟨due', hone⟩ :=
        invoked_scrape (e := { e with schedule := .inOrder }) c world now r hw
      have hcount := hall .inOrder
      rw [hone.dropped hno] at hcount
      cases hcount
    · intro hstop schedule
      obtain ⟨due', hany⟩ :=
        invoked_scrape (e := { e with schedule := schedule }) c world now r hw
      exact hany.count_eq_one hstop (hdue.schedule schedule)

end Exporter

/-- A scraper for servers yet to come. -/
def RegistryEntry.later : RegistryEntry :=
  ⟨{ Scraper.ofTask "later" .done with minVersion := ⟨9, 0, 0⟩ }, true, true, none⟩

/-- A scraper that is off. -/
def RegistryEntry.off : RegistryEntry := ⟨.ofTask "off" .done, false, false, none⟩

def choosyRegistry : Registry :=
  Collector.registryOf [(RegistryEntry.off.scraper, false), (RegistryEntry.later.scraper, true)]

/-- A request whose deadline is a tenth of a second before the last moment. -/
def ScrapeRequest.endless (names : String) : ScrapeRequest :=
  { collect := [names], timeout := .ofMillis 9223372036854775807900 }

theorem scrape_invokes_off :
    ((Exporter.new choosyRegistry).scrape (.to .silent) () 0
        (.brief " later,off, ,off")).executed.count
        "off" = 1 ∧
      ((Exporter.new choosyRegistry).scrape (.to .silent) () 0
        (.brief " later,off, ,off")).executed.count "later" = 0 ∧
      (Exporter.new choosyRegistry).Due (.to .silent) () 0 (.endless "off") .off ∧
      ((Exporter.new choosyRegistry).scrape (.to .silent) () 0 (.endless "off")).executed.count
        "off" = 0 ∧
      ¬ ∀ schedule, ({ Exporter.new choosyRegistry with schedule := schedule }.scrape
        (.to .silent) () 0 (.endless "off")).executed.count "off" = 1 := by
  have hreach : (Exporter.new choosyRegistry).registry.Reachable fun _ => True :=
    Registry.reachable_registryOf fun _ _ => trivial
  have hentries : values (Exporter.new choosyRegistry).registry.entries =
      [RegistryEntry.later, RegistryEntry.off] := rfl
  have hoff : RegistryEntry.off ∈ values (Exporter.new choosyRegistry).registry.entries := by
    simp [hentries]
  have hlater : RegistryEntry.later ∈ values (Exporter.new choosyRegistry).registry.entries := by
    simp [hentries]
  obtain ⟨hbrief, -, -⟩ :=
    Exporter.scrape_invokes (.to .silent) () 0 (.brief " later,off, ,off") hreach
  obtain ⟨hendless, -, -⟩ := Exporter.scrape_invokes (.to .silent) () 0 (.endless "off") hreach
  have hdue : ∀ r : ScrapeRequest,
      (∀ name ∈ ScrapeRequest.names r.collect, name ∈ ["later", "off"]) →
      "off" ∈ ScrapeRequest.names r.collect → r.target = none →
        Exporter.isMoment 0 r.timeout = true →
        (Exporter.new choosyRegistry).Due (.to .silent) () 0 r .off := by
    intro r hknown hnamed htarget hdeadline
    have hlookup : ∀ name ∈ ["later", "off"],
        ((Exporter.new choosyRegistry).registry.lookup name).isSome = true := by decide
    have hnames : ScrapeRequest.names r.collect ≠ [] := List.ne_nil_of_mem hnamed
    exact ⟨⟨fun name hname => hlookup name (hknown name hname), by simp [htarget]⟩,
      ⟨hoff, by rw [if_neg hnames]; exact hnamed⟩,
      .silent, ⟨hdeadline, rfl, Nat.zero_le _⟩, by decide⟩
  have hbrief' := hdue (.brief " later,off, ,off") (by decide) (by decide) rfl (by decide)
  have hendless' := hdue (.endless "off") (by decide) (by decide) rfl (by decide)
  have hstop : ¬ Exporter.HasHardStop 0 (.endless "off") := by decide
  refine ⟨((hbrief _ hoff).2.2 hbrief').2 (by decide) .inOrder, (hbrief _ hlater).1 fun h => ?_,
    hendless', rfl, fun hall => hstop (((hendless _ hoff).2.2 hendless').1 hall)⟩
  obtain ⟨s, ha, hv⟩ := h.acquired
  cases ha.server
  revert hv
  decide

end MysqlMetrics
