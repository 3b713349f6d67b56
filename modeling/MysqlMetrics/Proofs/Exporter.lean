import MysqlMetrics.Proofs.Collector.Kinds
import MysqlMetrics.Proofs.Exposition
import MysqlMetrics.Proofs.Families
import MysqlMetrics.Proofs.Scrape.Reports
/-!
# Exporters of built-in scrapers

An exporter with built-in scrapers keeps only descriptors that its scrapers have made
(`Reachable.cached`). So whatever it has been asked before, and whatever a server answers, the
families of a scrape have names and metrics, and one without a kind is left by a collector that
makes metrics of what it does not know (`families_of_builtin`).
-/
namespace MysqlMetrics

open Collector

namespace Exporter

/-- What scrapes make of a new exporter, while its registry changes. -/
inductive Reachable (allowed : Scraper → Prop) : Exporter → Prop
  | new {registry : Registry} (schedule : Machine.Schedule) (h : registry.Reachable allowed) :
    Reachable allowed { registry := registry, schedule := schedule }
  | registry {e : Exporter} {registry : Registry} (h : Reachable allowed e)
    (hr : registry.Reachable allowed) : Reachable allowed { e with registry := registry }
  | scrape {σ : Type} {e : Exporter} (c : Connector σ) (world : σ) (now : Nat) (r : ScrapeRequest)
    (h : Reachable allowed e) : Reachable allowed (e.scrape c world now r).exporter

variable {σ : Type} {e : Exporter} {c : Connector σ} {world : σ} {now : Nat} {r : ScrapeRequest}
  {allowed : Scraper → Prop}

theorem registry_scrape : (e.scrape c world now r).exporter.registry = e.registry := by
  have hc := scrape_course e c world now r
  generalize e.scrape c world now r = out at hc ⊢
  cases hc with
  | refused | overflow | dropped | down | up => rfl

theorem Reachable.registry_reachable (h : Reachable allowed e) : e.registry.Reachable allowed := by
  induction h with
  | new _ h => exact h
  | registry _ hr _ => exact hr
  | scrape c world now r _ ih => rw [registry_scrape]; exact ih

/-- An exporter that has not done anything yet. -/
def idle : Exporter := .new (defaultRegistry ⟨none, ⟨0, 0, 0⟩⟩)

theorem reachable_idle : Reachable IsBuiltin idle := .new .inOrder (reachable_defaultRegistry _)

/-- Every collector keeps descriptors of its own. -/
def Cached (caches : SortedTable String DescCache) : Prop :=
  ∀ p ∈ caches, p.2.Of (Describes p.1)

theorem follows_of_isBuiltin {x : RegistryEntry} (hx : IsBuiltin x.scraper) (s : Server)
    {caches : SortedTable String DescCache} (hc : Cached caches) :
    (x.unrolled s caches).Follows (Describes x.scraper.name) (Fatal x.scraper.name) s.database
      False := by
  refine (behaves_of_isBuiltin hx _ s.info).unroll s.database ?_
  cases hf : SortedTable.find? x.scraper.name caches with
  | none => intro p hp; cases hp
  | some cache => exact hc _ (SortedTable.mem_of_find? hf)

theorem unroll_spec (s : Server) {entries : List RegistryEntry}
    {caches : SortedTable String DescCache} (hb : ∀ x ∈ entries, IsBuiltin x.scraper)
    (hc : Cached caches) :
    (∀ p ∈ (unroll s caches entries).1, ∀ x ∈ Script.emitted p.2.acts, Describes p.1 x.desc) ∧
      Cached (unroll s caches entries).2.1 := by
  induction entries generalizing caches with
  | nil => exact ⟨by simp [unroll], hc⟩
  | cons y rest ih =>
    have hy := follows_of_isBuiltin (hb y (by simp)) s hc
    have hins : Cached (SortedTable.insert y.scraper.name (y.unrolled s caches).cache caches) := by
      intro p hp
      rcases SortedTable.mem_insert hp with rfl | hp
      · exact hy.cache
      · exact hc p hp
    obtain ⟨hs', hk'⟩ := ih (fun x hx => hb x (List.mem_cons_of_mem _ hx)) hins
    refine ⟨?_, hk'⟩
    intro p hp
    have hp : p ∈ _ :: (unroll s _ rest).1 := hp
    rcases List.mem_cons.1 hp with rfl | hp
    · exact hy.emitted
    · exact hs' p hp

theorem executed_builtin (h : e.registry.Reachable IsBuiltin) (u : Session e c world now r) :
    ∀ x ∈ u.executed, IsBuiltin x.scraper := by
  intro x hx
  obtain ⟨p, hp, rfl⟩ := List.mem_map.1 (Session.registered_of_executed h.wellFormed u hx)
  exact h.wellFormed.allowed (p.1, p.2.scraper) (List.mem_map_of_mem hp)

theorem Reachable.cached (h : Reachable IsBuiltin e) : Cached e.caches := by
  induction h with
  | new => intro p hp; cases hp
  | registry _ _ ih => exact ih
  | @scrape σ e c world now r h ih =>
    have hc := scrape_course e c world now r
    generalize e.scrape c world now r = out at hc ⊢
    cases hc with
    | refused | overflow | dropped | down => exact ih
    | up u => exact (unroll_spec u.server (executed_builtin h.registry_reachable u) ih).2

/-- What is logged in a session of built-in scrapers fits the scraper that has sent it, or is a
report. -/
theorem fits_of_mem_log (h : Reachable IsBuiltin e) {u : Session e c world now r}
    {log : List (Nat × Sample)} (hl : u.Log log) {s : Sample}
    (hs : s ∈ Meta.up true :: log.map (·.2)) :
    s.desc.name ≠ "" ∧ (s.desc.kind = .untyped → ∃ name ∈ u.outcome.executed, name ∈ generic) := by
  rcases List.mem_cons.1 hs with rfl | hs
  · exact ⟨show Meta.upDesc.name ≠ "" by decide, fun hk => by cases hk⟩
  · obtain ⟨⟨i, s⟩, hp, rfl⟩ := List.mem_map.1 hs
    obtain ⟨name, script, hi, hs | ⟨o, elapsed, -, -, hs⟩⟩ := hl.cases hp
    · have hmem := List.mem_of_getElem? hi
      have hfits := fits_of_describes ((unroll_spec u.server
        (executed_builtin h.registry_reachable u) h.cached).1 _ hmem s hs)
      exact ⟨hfits.name_ne_empty, fun hu => ⟨name, List.mem_map.2 ⟨_, hmem, rfl⟩, hfits.2 hu⟩⟩
    · have hreports : ∀ d ∈ Meta.reports, d.name ≠ "" ∧ d.kind ≠ .untyped := by decide
      obtain ⟨hn, hk⟩ := hreports _ (Meta.desc_mem_reports hs)
      exact ⟨hn, fun h => absurd h hk⟩

theorem gather_spec {stats : ScrapeStats} {f : Family} (h : f ∈ stats.gather) :
    Exposition.Filled f ∧ f.kind ≠ .untyped := by
  have hnames : ∀ n ∈ ScrapeStats.names, n ≠ "" := by decide
  refine ⟨⟨hnames _ (ScrapeStats.name_of_mem_gather h), ?_⟩, ?_⟩ <;>
    simp only [ScrapeStats.gather] at h <;> split at h <;> rename_i he <;>
    simp only [List.mem_cons, List.not_mem_nil, or_false] at h
  · rcases h with rfl | rfl <;> simp [ScrapeStats.single]
  · rcases h with rfl | rfl | rfl
    · simp [ScrapeStats.single]
    · simpa using he
    · simp [ScrapeStats.single]
  · rcases h with rfl | rfl <;> simp [ScrapeStats.single]
  · rcases h with rfl | rfl | rfl <;> simp [ScrapeStats.single]

/-- The families of a scrape by built-in scrapers have names and metrics. One without a kind is
left by a collector that makes metrics of what it does not know. -/
theorem families_of_builtin (h : Reachable IsBuiltin e) {fs : List Family}
    (hf : (e.scrape c world now r).result = .families fs) :
    (∀ f ∈ fs, Exposition.Filled f) ∧ ((∃ f ∈ fs, f.kind = .untyped) →
      ∃ name ∈ (e.scrape c world now r).executed, name ∈ generic) := by
  have hc := scrape_course e c world now r
  generalize e.scrape c world now r = out at hc hf ⊢
  revert hf
  cases hc with
  | refused | overflow | dropped => intro hf; cases hf
  | down =>
    intro hf
    cases hf
    rw [finishDown_families]
    refine ⟨fun f hf => ?_, fun ⟨f, hf, hk⟩ => ?_⟩
    · obtain ⟨hm, s, hs, hn, -⟩ := FamilyBuilder.exists_sample_of_mem_finish hf
      rw [List.mem_singleton] at hs
      subst hs
      exact ⟨hn ▸ by decide, hm⟩
    · obtain ⟨-, s, hs, -, -, hkind⟩ := FamilyBuilder.exists_sample_of_mem_finish hf
      rw [List.mem_singleton] at hs
      subst hs
      rw [← hkind] at hk
      cases hk
  | up u =>
    intro hf
    cases hf
    obtain ⟨log, hl⟩ := u.exists_log
    have hmem : ∀ f ∈ u.families, f ∈ u.stats.gather ∨ (f.metrics ≠ [] ∧
        ∃ s ∈ Meta.up true :: log.map (·.2), s.desc.name = f.name ∧ s.desc.kind = f.kind) := by
      intro f hf
      rcases List.mem_append.1 hf with hf | hf
      · rw [hl.families] at hf
        obtain ⟨hm, s, hs, hn, -, hk⟩ := FamilyBuilder.exists_sample_of_mem_finish hf
        exact .inr ⟨hm, s, hs, hn, hk⟩
      · exact .inl hf
    refine ⟨fun f hf => ?_, fun ⟨f, hf, hk⟩ => ?_⟩
    · rcases hmem f hf with hg | ⟨hm, s, hs, hn, -⟩
      · exact (gather_spec hg).1
      · exact ⟨hn ▸ (fits_of_mem_log h hl hs).1, hm⟩
    · rcases hmem f hf with hg | ⟨-, s, hs, -, hkind⟩
      · exact absurd hk (gather_spec hg).2
      · exact (fits_of_mem_log h hl hs).2 (hkind.trans hk)

/-- A scrape breaks off only where a moment cannot be said. -/
theorem overflow_of_panicked {message : String}
    (h : (e.scrape c world now r).result = .panicked message) :
    message = momentMessage ∧ isMoment now ⟨r.timeout.nanos + grace.nanos⟩ = false := by
  have hc := scrape_course e c world now r
  generalize e.scrape c world now r = out at hc h
  cases hc with
  | refused | down | up => cases h
  | overflow hm =>
    cases h
    refine ⟨rfl, Bool.eq_false_iff.2 fun hg => ?_⟩
    rw [isMoment_mono hg (Nat.le_add_right _ _)] at hm
    cases hm
  | dropped _ _ _ hg => cases h; exact ⟨rfl, hg⟩

end Exporter
end MysqlMetrics
