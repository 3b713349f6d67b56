import MysqlMetrics.Proofs.Scrape.Session
import MysqlMetrics.Proofs.Text
/-!
# What a scrape refuses

A request is looked at before anything is done for it. It is refused for the first of its names that
is not registered, or else for a target that the connector does not have, and then nothing has
happened. What it selects otherwise is told by the set of its names, however they are written
(`Exporter.scrape_refuses`).
-/
namespace MysqlMetrics

open SortedTable

/-! ## Selections -/

/-- A comma within an entry is as good as a new entry. -/
theorem ScrapeRequest.names_comma (before after : List String) (a b : String) :
    names (before ++ (a ++ "," ++ b) :: after) = names (before ++ a :: b :: after) := by
  have hsplit : Text.split ',' (a ++ "," ++ b) = Text.split ',' a ++ Text.split ',' b :=
    Text.split_append ',' a b
  simp [names, hsplit]

namespace Exporter

variable {σ : Type} {e : Exporter} {c : Connector σ} {world : σ} {now : Nat} {r : ScrapeRequest}
  {collect collect' : List String} {entries : List RegistryEntry} {allowed : Scraper → Prop}

/-- The first name of a selection that is not registered. -/
def firstUnknown? (e : Exporter) (collect : List String) : Option String :=
  (ScrapeRequest.names collect).find? fun name => (e.registry.lookup name).isNone

theorem firstUnknown?_eq_none : e.firstUnknown? collect = none ↔
    ∀ name ∈ ScrapeRequest.names collect, (e.registry.lookup name).isSome = true := by
  simp [firstUnknown?, Option.isSome_iff_ne_none]

theorem select_eq_error {err : ScrapeError} : e.select collect = .error err ↔
    ∃ name, e.firstUnknown? collect = some name ∧ err = .unknownScraper name := by
  have hunknown : (fun name => !(e.found name).isOk) =
      fun name => (e.registry.lookup name).isNone := by
    funext name
    unfold found
    cases e.registry.lookup name <;> rfl
  by_cases hn : ScrapeRequest.names collect = []
  · simp [select, firstUnknown?, hn]
  · rw [select_of_names hn]
    have hmap :
        (((ScrapeRequest.names collect).mapM e.found).map fun pairs => values (ofList pairs)) =
        .error err ↔ (ScrapeRequest.names collect).mapM e.found = .error err := by
      cases (ScrapeRequest.names collect).mapM e.found <;> simp [Except.map]
    rw [hmap, mapM_eq_error, hunknown]
    refine exists_congr fun name => and_congr_right fun hname => ?_
    have hnone : e.registry.lookup name = none := by simpa using List.find?_some hname
    simp [found, hnone, eq_comm]

theorem resolve_eq_error {err : ScrapeError} : e.resolve c r = .error err ↔
    (∃ name, e.firstUnknown? r.collect = some name ∧ err = .unknownScraper name) ∨
    (e.firstUnknown? r.collect = none ∧
      ∃ t, r.target = some t ∧ c.hasTarget t = false ∧ err = .unknownTarget t) := by
  rw [← select_eq_error, firstUnknown?_eq_none, ← exists_select_iff]
  unfold resolve
  cases e.select r.collect with
  | error err' => simp [Except.bind]
  | ok entries =>
    cases ht : r.target with
    | none => simp [Except.bind]
    | some t => by_cases hc : c.hasTarget t = true <;> simp [Except.bind, hc, @eq_comm _ err]

/-- Two selections with the same names give the same scrapers. -/
theorem select_congr (hw : e.registry.WellFormed allowed)
    (hn : ∀ name, name ∈ ScrapeRequest.names collect' ↔ name ∈ ScrapeRequest.names collect)
    (h : e.select collect = .ok entries) : e.select collect' = .ok entries := by
  have hknown : ∃ found, e.select collect' = .ok found := by
    simp only [exists_select_iff, hn]
    exact exists_select_iff.1 ⟨entries, h⟩
  obtain ⟨found, hf⟩ := hknown
  have hnil : ScrapeRequest.names collect' = [] ↔ ScrapeRequest.names collect = [] := by
    simp only [List.eq_nil_iff_forall_not_mem, hn]
  obtain ⟨ha, hm⟩ := select_spec hw h
  obtain ⟨ha', hm'⟩ := select_spec hw hf
  have hsame : ∀ x, x ∈ found ↔ x ∈ entries := fun x => by
    rw [hm, hm', Selects, Selects, hn]
    simp only [hnil]
  rw [hf, Registry.InOrder.ext ha' ha hsame]

/-! ## Scrapes -/

theorem scrape_of_error {err : ScrapeError} (h : e.resolve c r = .error err) :
    e.scrape c world now r =
      { result := .refused err, exporter := e, world := world, now := now } := by
  simp [scrape, h]

theorem refused_iff {err : ScrapeError} :
    (e.scrape c world now r).result = .refused err ↔ e.resolve c r = .error err := by
  constructor
  · have hc := scrape_course e c world now r
    generalize e.scrape c world now r = out at hc ⊢
    intro h
    cases hc with
    | refused hr => cases h; exact hr
    | overflow | dropped | down | up => cases h
  · intro h
    rw [scrape_of_error h]

/-- **What a scrape refuses.** A request is refused for the first of its names that is not
registered, and without such a name for a target that the connector does not have; for nothing else.
A refused request leaves all as it was, and does not even try to connect, so that it makes no
difference how the connector would. Otherwise the selection gives the scrapers it asks for, in
ascending order of their names, and both the selection and the scrape are the same however the names
are ordered, repeated and joined by commas.

A request without names waits for a registry that is not ready; `e` is then what it finds. -/
theorem scrape_refuses (c : Connector σ) (world : σ) (now : Nat) (r : ScrapeRequest)
    (hr : e.registry.Reachable allowed) :
    (∀ name, (e.scrape c world now r).result = .refused (.unknownScraper name) ↔
      e.firstUnknown? r.collect = some name) ∧
    (∀ target, (e.scrape c world now r).result = .refused (.unknownTarget target) ↔
      e.firstUnknown? r.collect = none ∧ r.target = some target ∧ c.hasTarget target = false) ∧
    (∀ err, (e.scrape c world now r).result = .refused err →
      ∀ c' : Connector σ, c'.hasTarget = c.hasTarget → e.scrape c' world now r =
        { result := .refused err, exporter := e, world := world, now := now
          executed := [], outcomes := [], queries := [] }) ∧
    (e.firstUnknown? r.collect = none → ∃ entries, e.select r.collect = .ok entries ∧
      Registry.InOrder entries ∧ (∀ x, x ∈ entries ↔ e.Selects r.collect x) ∧
      ∀ collect', (∀ name, name ∈ ScrapeRequest.names collect' ↔
          name ∈ ScrapeRequest.names r.collect) →
        e.select collect' = .ok entries ∧
          e.scrape c world now { r with collect := collect' } = e.scrape c world now r) ∧
    ∀ (before after : List String) (a b : String),
      e.select (before ++ (a ++ "," ++ b) :: after) = e.select (before ++ a :: b :: after) := by
  have hw := hr.wellFormed
  refine ⟨fun name => ?_, fun target => ?_, fun err h c' hc => ?_, fun h => ?_,
    fun before after a b => ?_⟩
  · rw [refused_iff, resolve_eq_error]
    simp
  · rw [refused_iff, resolve_eq_error]
    simp
  · have hres : e.resolve c' r = e.resolve c r := by simp only [resolve, hc]
    exact scrape_of_error (hres.trans (refused_iff.1 h))
  · obtain ⟨entries, hs⟩ := exists_select_iff.2 (firstUnknown?_eq_none.1 h)
    obtain ⟨hin, hmem⟩ := select_spec hw hs
    refine ⟨entries, hs, hin, hmem, fun collect' hn => ?_⟩
    have hs' := select_congr hw hn hs
    have hres : e.resolve c { r with collect := collect' } = e.resolve c r := by
      simp only [resolve, hs, hs']
    exact ⟨hs', by simp only [scrape, hres]⟩
  · simp only [select, ScrapeRequest.names_comma]

end Exporter

/-- Nobody is the first of two strangers, and two names are selected however they are written. -/
theorem scrape_refuses_nobody :
    ((Exporter.ofTasks [("b", .done), ("a", .done)]).scrape (.to .silent) () 0
        (.brief "a, nobody ,b,never")).result = .refused (.unknownScraper "nobody") ∧
      ∃ entries, entries.map (·.scraper.name) = ["a", "b"] ∧
        (Exporter.ofTasks [("b", .done), ("a", .done)]).select [" b,", "a,b"] = .ok entries := by
  have hreach := Exporter.reachable_ofTasks [("b", .done), ("a", .done)]
  have hknown : (Exporter.ofTasks [("b", .done), ("a", .done)]).firstUnknown?
      (ScrapeRequest.brief "a,b").collect = none := by decide
  obtain ⟨hstranger, -, -, -, -⟩ :=
    Exporter.scrape_refuses (.to .silent) () 0 (.brief "a, nobody ,b,never") hreach
  obtain ⟨-, -, -, hselect, -⟩ := Exporter.scrape_refuses (.to .silent) () 0 (.brief "a,b") hreach
  refine ⟨(hstranger "nobody").2 (by decide), ?_⟩
  obtain ⟨entries, hs, -, -, hsame⟩ := hselect hknown
  have hboth : ScrapeRequest.names [" b,", "a,b"] = ["b", "a", "b"] := rfl
  have hbrief : ScrapeRequest.names (ScrapeRequest.brief "a,b").collect = ["a", "b"] := rfl
  refine ⟨entries, ?_, (hsame [" b,", "a,b"] fun name => ?_).1⟩
  · cases hs
    rfl
  · rw [hboth, hbrief]
    simp only [List.mem_cons, List.not_mem_nil, or_false]
    tauto

end MysqlMetrics
