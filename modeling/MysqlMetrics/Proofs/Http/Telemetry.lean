import MysqlMetrics.Proofs.Exporter
import MysqlMetrics.Proofs.Http.Responses
/-!
# Answers under the path of the metrics

A request for the metrics is told which name nobody knows, or is given the families of a scrape as
text. Text is all that stands in the way: the format has no line for an untyped family, and where a
scrape leaves one, the handler breaks off (`Service.respond_metrics`).
-/
namespace MysqlMetrics

/-- A reply is another but for headers, and for the body if nobody asked for one. -/
inductive Reply.Bears (r : Request) : Reply → Reply → Prop
  | response {a b : Response} (hs : a.status = b.status)
    (hb : r.method ≠ "HEAD" → a.body = b.body) : Bears r (.response a) (.response b)
  | panicked {message : String} : Bears r (.panicked message) (.panicked message)

theorem Reply.Bears.eq_panicked {r : Request} {reply : Reply} {message : String}
    (h : reply.Bears r (.panicked message)) : reply = .panicked message := by
  cases h
  rfl

namespace Service

variable {σ : Type} {s : Service σ} {st st' : Serving σ} {r : Request} {d : Destination}

/-- The guard, if there is one, lets the request pass. -/
def Passes (st : Serving σ) (r : Request) : Prop :=
  ∀ g, st.guard = some g → (g.authorize r).1 = true

/-- The scrape that a request for the metrics starts. -/
def scrapeFor (s : Service σ) (st : Serving σ) (r : Request) : ScrapeOutcome σ :=
  st.exporter.scrape s.connector st.world st.now (scrapeRequest s.options r)

theorem handle_metrics (s : Service σ) (st : Serving σ) (r : Request) (g : Option Guard) :
    (s.handle r (.handler .metrics) { st with guard := g }).1 =
      metricsReply (s.scrapeFor st r).result := by
  simp only [handle, metrics, scrapeFor]

/-- Behind a guard that lets the request pass stands the handler. -/
theorem guarded_bears (s : Service σ) (d : Destination) (hg : Passes st r) :
    ∃ g, Reply.Bears r (s.guarded r d st).1 (s.handle r d { st with guard := g }).1 := by
  unfold guarded
  cases hs : st.guard with
  | none =>
    refine ⟨none, ?_⟩
    have hst : { st with guard := none } = st := by rw [← hs]
    rw [hst]
    dsimp only
    cases (s.handle r d st).1 with
    | response resp => exact .response rfl fun _ => rfl
    | panicked m => exact .panicked
  | some g =>
    refine ⟨some (g.authorize r).2, ?_⟩
    dsimp only
    rw [hg g hs, if_pos rfl]
    generalize s.handle r d { st with guard := some (g.authorize r).2 } = out
    obtain ⟨reply, st'⟩ := out
    cases reply with
    | response resp =>
      exact .response (addHeaders_spec _ resp).1 fun _ => (addHeaders_spec _ resp).2
    | panicked m => exact .panicked

theorem respond_bears (s : Service σ) (hg : Passes st r) (freshId : String) :
    ∃ g, Reply.Bears r (s.respond freshId r st).1
      (s.handle r (s.router.route r.method r.path) { st with guard := g }).1 := by
  obtain ⟨g, h⟩ := guarded_bears s (s.router.route r.method r.path) hg
  refine ⟨g, ?_⟩
  unfold respond
  dsimp only
  generalize s.guarded r (s.router.route r.method r.path) st = out at h ⊢
  generalize (s.handle r (s.router.route r.method r.path) { st with guard := g }).1 = reply at h ⊢
  obtain ⟨reply', st'⟩ := out
  cases h with
  | @response a b hs hb =>
    obtain ⟨hs', hb'⟩ := complete_spec (r := r) (s.router.route r.method r.path) freshId a
    exact .response (hs'.trans hs) fun hm => (hb' hm).trans (hb hm)
  | panicked => exact .panicked

/-- **The answer to a request for the metrics.** Behind the guard there are four: the name that
nobody knows, with 400; the text of the families of the scrape, with 200, if all of them can be
written; and no answer at all, if the scrape leaves an untyped family, which a collector that makes
metrics of what it does not know must have left, or if the moment at which it would have to end
cannot be said. Nothing else comes of it, and never a 500. -/
theorem respond_metrics {s : Service σ} {st : Serving σ} {r : Request}
    (he : st.exporter.Reachable Collector.IsBuiltin)
    (hd : s.router.route r.method r.path = .handler .metrics) (hg : Passes st r)
    (freshId : String) :
    (∃ err, (s.scrapeFor st r).result = .refused err ∧
      ((s.respond freshId r st).1.Bears r
        (.response (textResponse 400 (err.message ++ "\n"))))) ∨
    (∃ fs text, (s.scrapeFor st r).result = .families fs ∧ (∀ f ∈ fs, f.kind ≠ .untyped) ∧
      Exposition.render fs = .ok text ∧
      (s.respond freshId r st).1.Bears r (.response (textResponse 200 text))) ∨
    (∃ fs, (s.scrapeFor st r).result = .families fs ∧ (∃ f ∈ fs, f.kind = .untyped) ∧
      (∃ name ∈ (s.scrapeFor st r).executed, name ∈ Collector.generic) ∧
      (s.respond freshId r st).1 = .panicked "not implemented") ∨
    (Exporter.isMoment st.now
        ⟨(scrapeRequest s.options r).timeout.nanos + Exporter.grace.nanos⟩ = false ∧
      (s.scrapeFor st r).result = .panicked Exporter.momentMessage ∧
      (s.respond freshId r st).1 = .panicked Exporter.momentMessage) := by
  obtain ⟨g, hb⟩ := respond_bears s hg freshId
  rw [hd, handle_metrics] at hb
  cases hr : (s.scrapeFor st r).result with
  | refused err =>
    rw [hr] at hb
    exact .inl ⟨err, rfl, hb⟩
  | families fs =>
    rw [hr] at hb
    obtain ⟨hfilled, hgeneric⟩ := Exporter.families_of_builtin he hr
    simp only [metricsReply] at hb
    by_cases hu : ∃ f ∈ fs, f.kind = .untyped
    · rw [Exposition.render_of_untyped hfilled hu] at hb
      exact .inr (.inr (.inl ⟨fs, rfl, hu, hgeneric hu, hb.eq_panicked⟩))
    · have hu : ∀ f ∈ fs, f.kind ≠ .untyped := fun f hf hk => hu ⟨f, hf, hk⟩
      obtain ⟨text, ht⟩ := Exposition.exists_render hfilled hu
      rw [ht] at hb
      exact .inr (.inl ⟨fs, text, rfl, hu, ht, hb⟩)
  | panicked message =>
    rw [hr] at hb
    obtain ⟨rfl, hm⟩ := Exporter.overflow_of_panicked hr
    exact .inr (.inr (.inr ⟨hm, rfl, hb.eq_panicked⟩))

end Service

/-- A server with a status variable that no collector knows. -/
def Server.uptime : Server where
  info := ⟨.mySql, ⟨8, 0, 0⟩, ""⟩
  database _ := .rows (rowsOf ["Variable_name", "Value"]
    [[some "Uptime".toUTF8.toList, some "42".toUTF8.toList]])

def Service.uptime : Service Unit where
  options := {}
  router := ⟨[], "/metrics".toList.map Piece.char⟩
  connector := .to .uptime
  commit := ""

def Serving.idle : Serving Unit := { exporter := .idle, guard := none, world := () }

def Request.forStatus : Request := { target := "/metrics?collect[]=global_status" }

theorem respond_metrics_uptime :
    (Service.uptime.respond "" .forStatus .idle).1 = .panicked "not implemented" ∧
      ∃ name ∈ (Service.uptime.scrapeFor .idle .forStatus).executed, name ∈ Collector.generic := by
  have hp : (Service.uptime.respond "" .forStatus .idle).1 = .panicked "not implemented" := by
    decide +kernel
  refine ⟨hp, ?_⟩
  have hpass : Service.Passes Serving.idle .forStatus := fun g hg => by cases hg
  rcases Service.respond_metrics (s := Service.uptime) Exporter.reachable_idle
      (by decide +kernel) hpass "" with
    ⟨_, -, hb⟩ | ⟨_, _, -, -, -, hb⟩ | ⟨_, -, -, hg, -⟩ | ⟨-, -, hb⟩
  · rw [hp] at hb; cases hb
  · rw [hp] at hb; cases hb
  · exact hg
  · exact absurd (hp.symm.trans hb) (by decide)

end MysqlMetrics
