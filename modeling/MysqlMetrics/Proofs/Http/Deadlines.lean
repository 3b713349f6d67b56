import MysqlMetrics.Proofs.Http.Telemetry
import MysqlMetrics.Proofs.Options
/-!
# Moments that cannot be said

The seconds of a moment have 64 bits with a sign, those of a span 64 bits without one. So a caller
may allow a span, and the command line may name one, that no moment can be put after. A scrape adds
twice: its span before it connects, and the grace behind that once it has a server
(`Exporter.scrape_panicked_iff`). Neither addition is checked, and a request that is not refused
breaks off there exactly if the sum leaves the range (`Service.respond_overflow`); short spans are
safe.
-/
namespace MysqlMetrics

/-! ## Scrapes -/

namespace Exporter

variable {σ : Type} {e : Exporter} {c : Connector σ} {world : σ} {now : Nat} {r : ScrapeRequest}
  {d : Duration}

/-- The nanoseconds from the start on that no moment is left for. -/
def momentLimit : Nat := (Decimal.maxI64 + 1) * Duration.perSecond

theorem isMoment_iff : isMoment now d = true ↔ now * 1000000 + d.nanos < momentLimit := by
  have hpos : 0 < Duration.perSecond := by decide
  rw [isMoment, decide_eq_true_eq, ← Nat.lt_succ_iff, Nat.div_lt_iff_lt_mul hpos]
  rfl

theorem isMoment_eq_false : isMoment now d = false ↔ momentLimit ≤ now * 1000000 + d.nanos := by
  rw [← Bool.not_eq_true, isMoment_iff, Nat.not_lt]

/-- The server is there and answers within the time of the request. -/
def InTime (c : Connector σ) (world : σ) (r : ScrapeRequest) : Prop :=
  (c.acquire r.target world).1.server.isSome ∧
    (c.acquire r.target world).1.delay ≤ r.timeout.ceilMillis

/-- A scrape breaks off if it is not refused and its deadline is no moment, or, with a server, the
moment at which the reader would give up is none. -/
theorem scrape_panicked_iff {message : String} :
    (e.scrape c world now r).result = .panicked message ↔
      message = momentMessage ∧ (∃ entries, e.resolve c r = .ok entries) ∧
        (momentLimit ≤ now * 1000000 + r.timeout.nanos ∨
          InTime c world r ∧ momentLimit ≤ now * 1000000 + (r.timeout.nanos + grace.nanos)) := by
  unfold InTime
  rw [← @reached_isSome now, ← isMoment_eq_false,
    ← isMoment_eq_false (d := ⟨r.timeout.nanos + grace.nanos⟩)]
  cases hr : e.resolve c r with
  | error err => simp [scrape, hr]
  | ok entries =>
    cases hm : isMoment now r.timeout with
    | false => simp [scrape, hr, hm, @eq_comm _ message]
    | true =>
      cases hs : reached now (now + r.timeout.ceilMillis) (c.acquire r.target world).1 with
      | mk server later =>
        cases server with
        | none => simp [scrape, hr, hm, hs]
        | some server =>
          cases hg : isMoment now ⟨r.timeout.nanos + grace.nanos⟩ with
          | false => simp [scrape, hr, hm, hs, hg, @eq_comm _ message]
          | true => simp [scrape, hr, hm, hs, hg]

end Exporter

/-! ## Answers -/

theorem Reply.Bears.panicked_iff {r : Request} {reply reply' : Reply} {message : String}
    (h : reply.Bears r reply') : reply = .panicked message ↔ reply' = .panicked message := by
  cases h <;> simp

namespace Service

variable {σ : Type} {s : Service σ} {st : Serving σ} {r : Request}

/-- The text of families never breaks off as an addition of spans does. -/
theorem metricsReply_eq_overflow {result : ScrapeResult} :
    metricsReply result = .panicked Exporter.momentMessage ↔
      result = .panicked Exporter.momentMessage := by
  cases result with
  | refused err => simp [metricsReply]
  | panicked m => simp [metricsReply]
  | families fs =>
    have hother : Exposition.EncodeError.unsupported.message ≠ Exporter.momentMessage := by decide
    cases ht : Exposition.render fs with
    | ok text => simp [metricsReply, ht]
    | error err => cases err <;> simp [metricsReply, ht, hother]

theorem respond_eq_overflow (hd : s.router.route r.method r.path = .handler .metrics)
    (hg : Passes st r) (freshId : String) :
    (s.respond freshId r st).1 = .panicked Exporter.momentMessage ↔
      (s.scrapeFor st r).result = .panicked Exporter.momentMessage := by
  obtain ⟨g, hb⟩ := respond_bears s hg freshId
  rw [hd, handle_metrics] at hb
  rw [hb.panicked_iff, metricsReply_eq_overflow]

/-- A request for the metrics that asks for nothing unknown. -/
def Accepts (s : Service σ) (st : Serving σ) (r : Request) : Prop :=
  ∃ entries, st.exporter.resolve s.connector (scrapeRequest s.options r) = .ok entries

/-- **When an answer breaks off for want of a moment.** Let the time of the scrape be what the
caller allows, less the offset, or else what the command line gives. A request for the metrics
breaks off with the message of the clock exactly if nothing in it is unknown and the time, put after
the moment of the request, reaches the limit, or does so together with the grace while a server was
reached in time. So it does for a caller who allows the limit and the offset, whatever the server
does; and it does not if what the caller allows and what the command line gives stay below the
limit. -/
theorem respond_overflow (hd : s.router.route r.method r.path = .handler .metrics)
    (hg : Passes st r) (freshId : String) :
    ((s.respond freshId r st).1 = .panicked Exporter.momentMessage ↔
      Accepts s st r ∧
        (Exporter.momentLimit ≤
            st.now * 1000000 + (s.options.effectiveTimeout (allowedSeconds r)).nanos ∨
          Exporter.InTime s.connector st.world (scrapeRequest s.options r) ∧
            Exporter.momentLimit ≤ st.now * 1000000 +
              ((s.options.effectiveTimeout (allowedSeconds r)).nanos + Exporter.grace.nanos))) ∧
    (∀ d, Options.allowed (allowedSeconds r) = some d → Accepts s st r →
      Exporter.momentLimit + s.options.timeoutOffset.nanos ≤ d.nanos →
        (s.respond freshId r st).1 = .panicked Exporter.momentMessage) ∧
    ((∀ d, Options.allowed (allowedSeconds r) = some d ∨ d = s.options.scrapeTimeout →
        st.now * 1000000 + (d.nanos + Exporter.grace.nanos) < Exporter.momentLimit) →
      (s.respond freshId r st).1 ≠ .panicked Exporter.momentMessage) := by
  have hiff := respond_eq_overflow hd hg freshId
  rw [scrapeFor, Exporter.scrape_panicked_iff] at hiff
  simp only [true_and] at hiff
  refine ⟨hiff, fun d hallowed haccepts hlimit => ?_, fun hshort => ?_⟩
  · obtain ⟨hle, -⟩ := Options.effectiveTimeout_of_some (o := s.options) hallowed
    have hnanos : (scrapeRequest s.options r).timeout =
        s.options.effectiveTimeout (allowedSeconds r) := rfl
    refine hiff.2 ⟨haccepts, .inl ?_⟩
    rw [hnanos]
    omega
  · have hsafe : st.now * 1000000 + ((scrapeRequest s.options r).timeout.nanos +
        Exporter.grace.nanos) < Exporter.momentLimit := by
      show st.now * 1000000 + ((s.options.effectiveTimeout (allowedSeconds r)).nanos +
        Exporter.grace.nanos) < _
      cases hallowed : Options.allowed (allowedSeconds r) with
      | none =>
        rw [Options.effectiveTimeout_of_none hallowed]
        exact hshort _ (.inr rfl)
      | some d =>
        have hd := hshort d (.inl hallowed)
        obtain ⟨-, hle⟩ := Options.effectiveTimeout_of_some (o := s.options) hallowed
        omega
    intro hoverflow
    obtain ⟨-, hlimit⟩ := hiff.1 hoverflow
    rcases hlimit with hlimit | ⟨-, hlimit⟩
    · omega
    · omega

end Service

/-- A request of a caller who allows more seconds than a moment can count. -/
def Request.patient : Request :=
  { Request.forStatus with
    headers := [("X-Prometheus-Scrape-Timeout-Seconds", "1e19".toUTF8.toList)] }

/-- It breaks off before the server is asked; one that leaves the time to the service does not. -/
theorem respond_overflow_patient :
    (Service.uptime.respond "" .patient .idle).1 = .panicked Exporter.momentMessage ∧
      (Service.uptime.respond "" .forStatus .idle).1 ≠ .panicked Exporter.momentMessage := by
  have hpass : ∀ r, Service.Passes Serving.idle r := fun r g hg => by cases hg
  have haccepts : Service.Accepts Service.uptime .idle .patient := ⟨_, rfl⟩
  have hpatient : Options.allowed (Service.allowedSeconds .patient) =
      some (Duration.ofSeconds 10000000000000000000) := by decide +kernel
  have hnone : Options.allowed (Service.allowedSeconds .forStatus) = none := rfl
  obtain ⟨-, hlong, -⟩ :=
    Service.respond_overflow (s := Service.uptime) (by decide +kernel) (hpass .patient) ""
  obtain ⟨-, -, hshort⟩ :=
    Service.respond_overflow (s := Service.uptime) (by decide +kernel) (hpass .forStatus) ""
  refine ⟨hlong _ hpatient haccepts (by decide), hshort fun d hd => ?_⟩
  rcases hd with hd | rfl
  · rw [hnone] at hd
    cases hd
  · decide

end MysqlMetrics
