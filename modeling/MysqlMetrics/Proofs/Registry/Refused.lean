import MysqlMetrics.Proofs.Registry.Entries
import MysqlMetrics.Proofs.Registry.Flags
import MysqlMetrics.Startup.Setup
/-!
# What a refused command line leaves

A command line is refused for its settings, and then the registry has not been touched, or because a
scraper refuses the arguments found for it. Only the scraper itself can tell, when it is configured;
the scrapers before it in the order of names have been configured by then, and stay so
(`Startup.setup_error`). The flags wait as before, and nothing has been turned on or off.
-/
namespace MysqlMetrics

open SortedTable

namespace Registry

variable {allowed : Scraper → Prop} {r r' : Registry} {e : RegistryEntry} {name : String}
  {m : CommandLine.Matches} {cause : ArgError}

/-- An entry with what was found for it, turned on or off as before. -/
def given (m : CommandLine.Matches) (e : RegistryEntry) : RegistryEntry :=
  { parsed m e with enabled := e.enabled }

theorem eq_given_of_configureEntry {e' : RegistryEntry} {args : Option (List Arg)}
    (h : configureEntry m name e = .ok (e', args)) : e' = given m e := by
  obtain ⟨values, rfl⟩ := eq_of_configureEntry h
  have hparsed := congrArg RegistryEntry.args (eq_ok_of_configureEntry h).1
  have hvalues : values = (parsed m e).args := hparsed
  rw [hvalues]
  rfl

theorem given_of_nothing (h : argsFound m e.scraper = []) : given m e = e := by
  have hsame : e.args.map (fun set => { set with current := ArgSet.assignAll set.current [] }) =
      e.args := by
    cases e.args <;> rfl
  simp only [given, parsed, h, hsame]

/-- Nobody but the scraper refuses what was found for it. -/
theorem refuses_of_configureEntry (h : Fit e) (hok : Registrable e.scraper)
    (hc : configureEntry m name e = .error cause) :
    e.scraper.refuses (argsFound m e.scraper) = some cause := by
  unfold configureEntry at hc
  split at hc
  · cases hc
  · rename_i a rest hfound
    rcases h.args_cases with ⟨hdefs, -⟩ | ⟨set, hset, hdefs, hrefuses, -⟩
    · simp [argsFound, hdefs] at hfound
    · have hdeclared : declared e.scraper = set.definitions := by simp [declared, hdefs]
      have hchecks : (a :: rest).forM set.check = .ok () := by
        refine forM_eq_ok.2 fun b hb => ?_
        obtain ⟨d, hd, hname, hkind⟩ := mem_argsFound (hfound ▸ hb)
        exact ArgSet.check_eq_ok (hdeclared ▸ hok.distinct) (hdeclared ▸ hd) hname hkind
      rw [hfound, ← hrefuses]
      simp only [hset, ArgSet.configure, hchecks, bind, Except.bind] at hc
      cases hr : set.refuses (a :: rest) with
      | none => rw [hr] at hc; cases hc
      | some err =>
        rw [hr] at hc
        cases hc
        rfl

theorem of_configureEntry_eq_ok (h : Fit e) {result : RegistryEntry × Option (List Arg)}
    (hc : configureEntry m name e = .ok result) :
    argsFound m e.scraper = [] ∨ e.scraper.refuses (argsFound m e.scraper) = none := by
  unfold configureEntry at hc
  split at hc
  · rename_i hnothing
    exact .inl hnothing
  · rename_i a rest hfound
    rcases h.args_cases with ⟨hdefs, -⟩ | ⟨set, hset, -, hrefuses, -⟩
    · simp [argsFound, hdefs] at hfound
    · cases hconf : set.configure (a :: rest) with
      | error err => simp [hset, hconf, Except.map] at hc
      | ok set' =>
        obtain ⟨-, hnone, -⟩ := ArgSet.configure_eq_ok.1 hconf
        rw [hfound, ← hrefuses]
        exact .inr hnone

/-- The first entry that cannot be configured parts those that have been from those that have
not. -/
theorem configureAll_eq_error : ∀ {t t' : SortedTable String RegistryEntry},
    configureAll m t = (t', .error cause) → ∃ before p after, t = before ++ p :: after ∧
      configureEntry m p.1 p.2 = .error cause ∧
        (∀ q ∈ before, ∃ result, configureEntry m q.1 q.2 = .ok result) ∧
          t' = before.map (fun q => (q.1, given m q.2)) ++ p :: after
  | [], _, h => by cases h
  | (name, e) :: rest, t', h => by
    unfold configureAll at h
    split at h
    · rename_i err hc
      cases h
      exact ⟨[], (name, e), rest, rfl, hc, by simp, rfl⟩
    · rename_i e' args hc
      cases hrest : configureAll m rest with
      | mk rest' result =>
        rw [hrest] at h
        cases result with
        | ok overrides => cases h
        | error err =>
          cases h
          obtain ⟨before, p, after, rfl, hp, hbefore, rfl⟩ := configureAll_eq_error hrest
          obtain rfl := eq_given_of_configureEntry hc
          exact ⟨(name, e) :: before, p, after, rfl, hp,
            List.forall_mem_cons.2 ⟨⟨_, hc⟩, hbefore⟩, rfl⟩

/-- What a registry looks like after a scraper has refused what was found for it: those before it in
the order of names, which did not, are configured, and it and those behind it are not. -/
structure Interrupted (m : CommandLine.Matches) (cause : ArgError) (r r' : Registry) : Prop where
  waiting : r'.state = .flagsPending
  parted : ∃ before name e after, r.entries = before ++ (name, e) :: after ∧
    e.scraper.refuses (argsFound m e.scraper) = some cause ∧
      (∀ q ∈ before, argsFound m q.2.scraper = [] ∨
        q.2.scraper.refuses (argsFound m q.2.scraper) = none) ∧
        r'.entries = before.map (fun q => (q.1, given m q.2)) ++ (name, e) :: after

theorem interrupted_of_onParsed (h : Reachable allowed r) (hs : r.state = .flagsPending)
    {err : RegistryError} (hp : r.onParsed m = (.error err, r')) :
    ∃ cause, err = .argument cause ∧ Interrupted m cause r r' := by
  simp only [onParsed, hs] at hp
  split at hp
  · rename_i entries cause hc
    cases hp
    obtain ⟨before, ⟨name, e⟩, after, hentries, hentry, hbefore, hparted⟩ :=
      configureAll_eq_error hc
    have hmem : (name, e) ∈ r.entries := by simp [hentries]
    have hscraper : (name, e.scraper) ∈ r.scrapers :=
      List.mem_map_of_mem (f := fun p => (p.1, p.2.scraper)) hmem
    have hok := (h.registrable.wellFormed.allowed _ hscraper).2
    have hrefuses := refuses_of_configureEntry (h.fit _ hmem) hok hentry
    refine ⟨cause, rfl, rfl, before, name, e, after, hentries, hrefuses, fun q hq => ?_, hparted⟩
    obtain ⟨result, hresult⟩ := hbefore q hq
    exact of_configureEntry_eq_ok (h.fit q (by simp [hentries, hq])) hresult
  · cases hp

/-- Nothing is turned on or off in between. -/
theorem Interrupted.enabled (h : Interrupted m cause r r') :
    r'.entries.map (fun p => (p.1, p.2.enabled)) = r.entries.map fun p => (p.1, p.2.enabled) := by
  obtain ⟨-, before, name, e, after, hr, -, -, hr'⟩ := h
  rw [hr, hr']
  simp [given, Function.comp_def]

/-- If no scraper has been given anything that it takes, nothing has happened. -/
theorem Interrupted.eq_self (h : Interrupted m cause r r') (hs : r.state = .flagsPending)
    (hnone : ∀ p ∈ r.entries, p.2.scraper.refuses (argsFound m p.2.scraper) = none →
      argsFound m p.2.scraper = []) : r' = r := by
  obtain ⟨hwaiting, before, name, e, after, hr, -, hbefore, hr'⟩ := h
  have hsame : before.map (fun q => (q.1, given m q.2)) = before := by
    refine (List.map_congr_left fun q hq => ?_).trans (List.map_id _)
    have hnothing : argsFound m q.2.scraper = [] :=
      (hbefore q hq).elim id (hnone q (by simp [hr, hq]))
    rw [given_of_nothing hnothing]
    rfl
  obtain ⟨state, entries⟩ := r
  obtain ⟨state', entries'⟩ := r'
  rw [hsame] at hr'
  exact congrArg₂ Registry.mk (hwaiting.trans hs.symm) (hr'.trans hr.symm)

end Registry

namespace Startup

open Registry

variable {allowed : Scraper → Prop} {r r' : Registry} {m : CommandLine.Matches} {files : Files}

/-- **What a refused command line leaves.** While the flags wait, a command line is refused for its
settings, and the registry is what it was; or because a scraper refuses what was found for it. Then
the flags still wait and nothing was turned on or off, but the scrapers before that one in the order
of names have been configured, so that only a command line that gives them nothing leaves the
registry, and what comes after, as if it had not been read. If no scraper refuses anything of its
own accord, a command line is refused for its settings alone. -/
theorem setup_error (h : r.Reachable allowed) (hs : r.state = .flagsPending) {err : SetupError}
    (hsetup : setup files m r = (.error err, r')) :
    (settings files m = .error err ∧ r' = r) ∨
      (∃ cause, err = .registry (.argument cause) ∧
        r.onParsed m = (.error (.argument cause), r') ∧ Interrupted m cause r r' ∧
        r'.entries.map (fun p => (p.1, p.2.enabled)) = r.entries.map (fun p => (p.1, p.2.enabled)) ∧
        ((∀ p ∈ r.entries, p.2.scraper.refuses (argsFound m p.2.scraper) = none →
          argsFound m p.2.scraper = []) → r' = r) ∧
        ∃ s ∈ values r.scrapers, ∃ args, s.refuses args ≠ none) := by
  unfold setup at hsetup
  split at hsetup
  · rename_i e hsettings
    cases hsetup
    exact .inl ⟨hsettings, rfl⟩
  · split at hsetup
    · rename_i options web hsettings e r₁ hparsed
      cases hsetup
      obtain ⟨cause, rfl, hinterrupted⟩ := interrupted_of_onParsed h hs hparsed
      refine .inr ⟨cause, rfl, hparsed, hinterrupted, hinterrupted.enabled,
        hinterrupted.eq_self hs, ?_⟩
      by_contra hall
      push Not at hall
      obtain ⟨a, r₂, hok⟩ := exists_onParsed (m := m) h hs hall
      cases hparsed.symm.trans hok
    · cases hsetup

end Startup

/-- A scraper that takes no text at all for its argument. -/
def Scraper.stubborn : Scraper :=
  { Registry.idle "b" ["x"] with refuses := fun _ => some (.unknown "b" "x") }

def beforeStubborn : Registry :=
  Collector.registryOf [(Registry.idle "a" ["x"], true), (.stubborn, true)]

/-- A registry that waits for a command line, with a scraper that will refuse it. -/
def Registry.withStubborn : Registry := { beforeStubborn with state := .flagsPending }

/-- The first scraper keeps what a command line gave it that the second has refused, and has it
still when a command line without any arguments is accepted. -/
theorem setup_error_stubborn : ∃ (m : CommandLine.Matches) (r' : Registry),
    Startup.setup {} m .withStubborn = (.error (.registry (.argument (.unknown "b" "x"))), r') ∧
      Registry.Interrupted m (.unknown "b" "x") .withStubborn r' ∧
      (r'.onParsed []).2.argValue "a" "x" = some (.string "1") ∧
      (Registry.withStubborn.onParsed []).2.argValue "a" "x" = some (.string "") := by
  have hbefore : Registry.Reachable (fun _ => True) beforeStubborn :=
    Registry.reachable_registryOf fun _ _ => trivial
  have hbound : beforeStubborn.init = .ok (Registry.withStubborn.flags, .withStubborn) := rfl
  let line : CommandLine.Matches := [("collect.a.x", .text "1"), ("collect.b.x", .text "2")]
  have hpath : Startup.isTelemetryPath "/metrics" = true := by decide +kernel
  have hsettings : Startup.settings {} line = .ok ({}, none) := if_pos hpath
  have hsetup : Startup.setup {} line .withStubborn =
      (.error (.registry (.argument (.unknown "b" "x"))),
      (Registry.withStubborn.onParsed line).2) := by
    rw [Startup.setup, hsettings]
    rfl
  refine ⟨line, _, hsetup, ?_, rfl, rfl⟩
  rcases Startup.setup_error (hbefore.init hbound) rfl hsetup with
    ⟨hrefused, -⟩ | ⟨cause, herr, -, hinterrupted, -⟩
  · cases hsettings.symm.trans hrefused
  · cases herr
    exact hinterrupted

end MysqlMetrics
