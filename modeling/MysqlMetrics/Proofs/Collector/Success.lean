import MysqlMetrics.Proofs.Exporter
/-!
# Success of the collectors

A built-in scraper that is given any time at all comes to its end, and what is shown of its success
is whether one of its queries was answered fatally (`Exporter.scrape_success`).
-/
namespace MysqlMetrics

open Collector

variable {P : Desc → Prop} {fatal : String → QueryResult → Prop} {db : Database}

/-- A task that behaves is cut off only where it has no time, and else fails exactly if an answer
was fatal. -/
theorem Unrolled.Follows.outcome {v : Unrolled} (h : v.Follows P fatal db False) {limit : Nat}
    {out : List Sample} {o : Outcome} {elapsed : Nat} (he : v.script.Ended limit out o elapsed) :
    o = .cutOff ∧ limit = 0 ∨ o = .ok ∧ ¬ v.Doomed fatal db ∨ o = .failed ∧ v.Doomed fatal db := by
  have hend := h.ending
  rw [false_or] at hend
  cases he with
  | ok he hs =>
    rcases hend with ⟨-, hn⟩ | ⟨⟨_, hm⟩, -⟩
    · exact .inr (.inl ⟨rfl, hn⟩)
    · rw [he] at hm; cases hm
  | failed he hs =>
    rcases hend with ⟨hm, -⟩ | ⟨-, hd⟩
    · rw [he] at hm; cases hm
    · exact .inr (.inr ⟨rfl, hd⟩)
  | panicked he hs =>
    rcases hend with ⟨hm, -⟩ | ⟨⟨_, hm⟩, -⟩ <;> rw [he] at hm <;> cases hm
  | late ha hs hl =>
    have hz := h.slept
    rw [ha, Script.slept_append, Script.slept] at hz
    omega
  | crowdedOut ha hs =>
    have hz := h.slept
    rw [ha, Script.slept_append] at hz
    exact .inl ⟨rfl, by omega⟩

namespace Exporter

variable {σ : Type} {e : Exporter} {c : Connector σ} {world : σ} {now : Nat} {r : ScrapeRequest}

theorem undisputed_of_builtin (h : Reachable IsBuiltin e) (u : Session e c world now r) {d : Desc}
    (hd : d ∈ Meta.reports) (name : String) : u.Undisputed d name := by
  intro p hp s hs hn
  have hfits := fits_of_describes ((unroll_spec u.server
    (executed_builtin h.registry_reachable u) h.cached).1 p hp s hs)
  exact absurd hn (hfits.name_ne_report hd)

/-- **Success of a collector.** In a session of an exporter with built-in scrapers, whatever it was
asked before and whatever the server answers, each scraper that runs is cut off only if there is no
time at all, and fails exactly if one of its queries was answered fatally. This is what is shown
about it. -/
theorem scrape_success (h : Reachable IsBuiltin e) (u : Session e c world now r)
    {x : RegistryEntry} (hx : x ∈ u.executed) :
    ∃ fs o, (e.scrape c world now r).result = .families fs ∧
      (x.scraper.name, o) ∈ (e.scrape c world now r).outcomes ∧
      readings fs Meta.successDesc.name (Meta.labels x.scraper.name) =
        [.scalar (Meta.flag o.isOk)] ∧
      (o = .cutOff ∧ u.start = u.deadline ∨
        o = .ok ∧ ¬ (x.unrolled u.server e.caches).Doomed (Fatal x.scraper.name) u.server.database ∨
        o = .failed ∧
          (x.unrolled u.server e.caches).Doomed (Fatal x.scraper.name) u.server.database) := by
  have hw := h.registry_reachable.wellFormed
  obtain ⟨log, hl⟩ := u.exists_log
  have hscript : (x.scraper.name, (x.unrolled u.server e.caches).script) ∈ u.scripts := by
    rw [Session.scripts_eq hw]
    exact List.mem_map_of_mem hx
  obtain ⟨i, hi⟩ := List.mem_iff_getElem?.1 hscript
  obtain ⟨o, out, elapsed, ho, he, hsent⟩ := hl.sent i _ _ hi
  have hcase := (follows_of_isBuiltin (executed_builtin h.registry_reachable u x hx) u.server
    h.cached).outcome he
  have hpanic : o ≠ .panicked := by
    rintro rfl
    rcases hcase with ⟨hc, -⟩ | ⟨hc, -⟩ | ⟨hc, -⟩ <;> cases hc
  have hreport : Meta.successDesc ∈ Meta.reports := by simp [Meta.reports]
  have hshown := Session.readings_executed hw hl hreport (undisputed_of_builtin h u hreport _) hi he
    hsent
  rw [if_neg hpanic] at hshown
  rw [scrape_session u]
  refine ⟨u.families, o, rfl, List.mem_of_getElem? ho, hshown, ?_⟩
  rcases hcase with ⟨hc, hz⟩ | hcase
  · have hle := u.start_le_deadline
    simp only [Session.limit] at hz
    exact .inl ⟨hc, by omega⟩
  · exact .inr hcase

end Exporter

/-- A server that keeps its status to itself, and has its own queries for response times
interrupted. -/
def Server.closed : Server where
  info := ⟨.mySql, ⟨8, 0, 0⟩, ""⟩
  database sql :=
    if sql = ResponseTime.switchQuery then .rows (rowsOf ["on"] [[some "1".toUTF8.toList]])
    else if sql = GlobalStatus.query then .failed 1227
    else .failed 1317

def Session.closed : Session .idle (.to .closed) () 0
    (.brief "global_status,info_schema.query_response_time") where
  entries := [⟨GlobalStatus.scraper, true, true, none⟩, ⟨ResponseTime.scraper, true, true, none⟩]
  server := .closed
  start := 0
  resolved := rfl
  reached := rfl
  moment := by decide

theorem scrape_success_closed : ∃ fs,
    (Exporter.scrape .idle (.to .closed) () 0
      (.brief "global_status,info_schema.query_response_time")).result = .families fs ∧
    readings fs Meta.successDesc.name (Meta.labels "global_status") = [.scalar (Meta.flag false)] ∧
    readings fs Meta.successDesc.name (Meta.labels "info_schema.query_response_time") =
      [.scalar (Meta.flag true)] := by
  have htime : Session.closed.start ≠ Session.closed.deadline := by decide
  have hstatus : (RegistryEntry.unrolled ⟨GlobalStatus.scraper, true, true, none⟩ .closed
      []).Doomed (Fatal "global_status") Server.closed.database :=
    ⟨GlobalStatus.query, List.mem_cons_self, trivial⟩
  have htimes : ¬ (RegistryEntry.unrolled ⟨ResponseTime.scraper, true, true, none⟩ .closed
      []).Doomed (Fatal "info_schema.query_response_time") Server.closed.database := by
    rintro ⟨sql, -, hf⟩
    have hf : ResponseTime.Fatal sql (Server.closed.database sql) := hf
    simp only [Server.closed] at hf
    split at hf
    · exact hf
    · rename_i hne
      split at hf <;> exact hne hf.1
  obtain ⟨fs, o, hf, -, hs, ho⟩ := Exporter.scrape_success Exporter.reachable_idle Session.closed
    (x := ⟨GlobalStatus.scraper, true, true, none⟩) List.mem_cons_self
  obtain ⟨fs', o', hf', -, hs', ho'⟩ := Exporter.scrape_success Exporter.reachable_idle
    Session.closed (x := ⟨ResponseTime.scraper, true, true, none⟩)
    (List.mem_cons_of_mem _ List.mem_cons_self)
  obtain rfl : fs = fs' := ScrapeResult.families.inj (hf.symm.trans hf')
  refine ⟨fs, hf, ?_, ?_⟩
  · rcases ho with ⟨-, ht⟩ | ⟨-, hn⟩ | ⟨rfl, -⟩
    · exact absurd ht htime
    · exact absurd hstatus hn
    · exact hs
  · rcases ho' with ⟨-, ht⟩ | ⟨rfl, -⟩ | ⟨-, hd⟩
    · exact absurd ht htime
    · exact hs'
    · exact absurd hd htimes

end MysqlMetrics
