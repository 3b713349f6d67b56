import MysqlMetrics.Proofs.Scrape.Answer
import MysqlMetrics.Proofs.Scrape.Failures
import MysqlMetrics.Proofs.Scrape.Overlap
/-!
# Totals of scrapes that overlap

The three totals of an exporter are kept in different places: scrapes are counted before anybody
connects, failures when they happen, and a scrape says at its end whether it was flawed. A move of a
request changes the totals by what it changes of the request (`Flight.Goes.adds`), and time changes
neither. So whatever the order of moves, the totals are the sums over the requests
(`Overlap.Tally`), and once all of them are over they agree with what the answers say
(`Overlap.totals_agree`).
-/
namespace MysqlMetrics

/-- Is it the number zero? -/
def Reading.isZero : Reading → Bool
  | .scalar x => x == 0
  | _ => false

theorem Meta.reported_success (millis : Nat) (ok : Bool) :
    reported successDesc millis ok = flag ok := by
  have hne : successDesc ≠ durationDesc := by decide
  rw [reported, if_neg hne]

namespace ScrapeStats

variable {s : ScrapeStats}

@[simp] theorem scrapes_beginScrape (s : ScrapeStats) : s.beginScrape.scrapes = s.scrapes + 1 := rfl

@[simp] theorem lastFailed_beginScrape (s : ScrapeStats) :
    s.beginScrape.lastFailed = s.lastFailed := rfl

@[simp] theorem errorsOf_beginScrape (s : ScrapeStats) (name : String) :
    (s.beginScrape.errorsOf name).1 = (s.errorsOf name).1 := rfl

@[simp] theorem scrapes_endScrape (s : ScrapeStats) (failed : Bool) :
    (s.endScrape failed).scrapes = s.scrapes := rfl

@[simp] theorem lastFailed_endScrape (s : ScrapeStats) (failed : Bool) :
    (s.endScrape failed).lastFailed = failed := rfl

@[simp] theorem errorsOf_endScrape (s : ScrapeStats) (failed : Bool) (name : String) :
    ((s.endScrape failed).errorsOf name).1 = (s.errorsOf name).1 := rfl

@[simp] theorem scrapes_recordErrors (s : ScrapeStats) (scrapers : List String) :
    (s.recordErrors scrapers).scrapes = s.scrapes :=
  List.foldlRecOn scrapers _ (motive := fun t : ScrapeStats => t.scrapes = s.scrapes) rfl
    fun _ h _ _ => h

@[simp] theorem lastFailed_recordErrors (s : ScrapeStats) (scrapers : List String) :
    (s.recordErrors scrapers).lastFailed = s.lastFailed :=
  List.foldlRecOn scrapers _ (motive := fun t : ScrapeStats => t.lastFailed = s.lastFailed) rfl
    fun _ h _ _ => h

theorem errorsOf_recordError (h : s.Reachable) (scraper name : String) :
    ((s.recordError scraper).errorsOf name).1 =
      (s.errorsOf name).1 + if scraper = name then 1 else 0 := by
  simp only [errorsOf, recordError, SortedTable.find?_upsert h.ascending]
  by_cases hn : name = scraper
  · subst hn
    simp
  · simp [hn, Ne.symm hn]

/-- Each failure is counted for its scraper. -/
theorem errorsOf_recordErrors (h : s.Reachable) (scrapers : List String) (name : String) :
    ((s.recordErrors scrapers).errorsOf name).1 = (s.errorsOf name).1 + scrapers.count name := by
  induction scrapers generalizing s with
  | nil => rfl
  | cons scraper rest ih =>
    have hrest := ih (h.recordError scraper)
    rw [errorsOf_recordError h] at hrest
    rw [List.count_cons]
    simp only [beq_iff_eq]
    rw [show s.recordErrors (scraper :: rest) = (s.recordError scraper).recordErrors rest from rfl,
      hrest]
    omega

end ScrapeStats

namespace Flight

variable {σ : Type} {f : Flight} {c : Connector σ} {e : Exporter} {world : σ} {now : Nat}
  {move : Move} {moved : Moved σ} {registry : Registry} {allowed : Scraper → Prop} {name : String}

/-! ## What a request adds to the totals -/

/-- Has the request begun, and not been refused? -/
def isCounted (f : Flight) : Bool :=
  match f.progress with
  | .awaited | .done (.refused _) _ => false
  | _ => true

/-- The run of a request that has come to its server. -/
def run? (f : Flight) : Option Run :=
  match f.progress with
  | .running run => some run
  | .done _ run => run
  | _ => none

/-- The failures in the request's run so far. -/
def failures (f : Flight) : List String := (f.run?.map (·.machine.failures)).getD []

/-- Was there no server, or did a scraper end other than well? -/
def isFlawed (f : Flight) : Bool := (f.run?.map (·.machine.failed)).getD true

/-- The request has moved from `f` to `f'`, and the totals from `s` to `s'`. -/
structure Adds (f f' : Flight) (s s' : ScrapeStats) : Prop where
  reachable : s'.Reachable
  scrapes : s'.scrapes + f.isCounted.toNat = s.scrapes + f'.isCounted.toNat
  errors : ∀ name, (s'.errorsOf name).1 + f.failures.count name =
    (s.errorsOf name).1 + f'.failures.count name
  unanswered : f.isAnswered = false
  last : s'.lastFailed = if f'.isAnswered then f'.isFlawed else s.lastFailed

/-- A move adds to the totals what it adds to the request. -/
theorem Goes.adds (h : f.Goes c e world now move moved) (hs : e.stats.Reachable) :
    Adds f { f with progress := moved.1 } e.stats moved.2.1.stats := by
  cases h with
  | refuse hp hr => constructor <;> simp [isCounted, failures, run?, isAnswered, hp, hs]
  | overflow hp hr hm | depart hp hr hm hreach =>
    refine ⟨hs.beginScrape, ?_, fun name => ?_, ?_, ?_⟩ <;>
      simp [isCounted, failures, run?, isAnswered, hp]
  | miss hp hc =>
    refine ⟨hs.endScrape true, ?_, fun name => ?_, ?_, ?_⟩ <;>
      simp [isCounted, failures, run?, isAnswered, isFlawed, hp, Exporter.finishDown]
  | late hp hc hm | land hp hc hm hu =>
    constructor <;> simp [isCounted, failures, run?, isAnswered, hp, hs, Machine.new]
  | @run run choice m hp hw hstep =>
    -- what the move adds to the failures of the run is what is recorded
    obtain ⟨new, hnew⟩ := Machine.failures_isPrefix hstep
    have hdrop : m.failures.drop run.machine.failures.length = new := by
      rw [← hnew, List.drop_left]
    refine ⟨hs.recordErrors _, ?_, fun name => ?_, ?_, ?_⟩
    · simp [isCounted, hp, ran]
    · simp only [ran, hdrop, ScrapeStats.errorsOf_recordErrors hs]
      simp only [failures, run?, hp, Option.map_some, Option.getD_some, ← hnew, List.count_append]
      omega
    · simp [isAnswered, hp]
    · simp [isAnswered, ran]
  | @finish run hp hd =>
    refine ⟨hs.endScrape run.machine.failed, ?_, fun name => ?_, ?_, ?_⟩ <;>
      simp [isCounted, failures, run?, isAnswered, isFlawed, hp, finished]

/-- The clock is nothing to the totals. -/
theorem eq_of_atMoment (f : Flight) (t : Nat) : (f.atMoment t).isCounted = f.isCounted ∧
    (f.atMoment t).failures = f.failures ∧ (f.atMoment t).isAnswered = f.isAnswered ∧
      (f.atMoment t).isFlawed = f.isFlawed := by
  unfold atMoment
  split
  · rename_i run hp
    simp [isCounted, failures, run?, isAnswered, isFlawed, hp, Machine.failed]
  · exact ⟨rfl, rfl, rfl, rfl⟩

/-! ## What an answer says -/

/-- Does the answer say that the scraper did not succeed? -/
def showsFailure (f : Flight) (name : String) : Bool :=
  match f.progress with
  | .done (.families fs) _ =>
    (readings fs Meta.successDesc.name (Meta.labels name)).any Reading.isZero
  | _ => false

/-- No script of the request's run says anything of its own about who succeeded. -/
def Undisputed (f : Flight) : Prop :=
  ∀ run ∈ f.run?, ∀ p ∈ run.scripts, ∀ s ∈ Script.emitted p.2.acts,
    s.desc.name ≠ Meta.successDesc.name

/-- The request had its server, and every scraper that ran for it came to a good end in time. -/
def Succeeded (registry : Registry) (c : Connector σ) (f : Flight) : Prop :=
  ∃ (e : Exporter) (world : σ) (began : Nat) (u : Session e c world began f.request)
    (fs : List Family), e.registry = registry ∧
    f.progress = .done (.families fs) (some ⟨u.scripts, u.final⟩) ∧
    ∀ name script, (name, script) ∈ u.scripts → ∃ out elapsed,
      (name, Outcome.ok) ∈ u.final.outcomes ∧ Script.Ended u.limit script out .ok elapsed

/-- What is shown about a scraper in a session does not depend on the totals behind it. -/
theorem readings_session {r : ScrapeRequest} (u : Session e c world now r) (stats : ScrapeStats)
    {d : Desc} (hd : d ∈ Meta.reports) (name : String) :
    readings (u.final.builder.finish ++ stats.gather) d.name (Meta.labels name) =
      readings u.families d.name (Meta.labels name) := by
  rw [Session.families, readings_append, readings_append, Session.readings_gather hd,
    Session.readings_gather hd]

theorem readings_down {d : Desc} (hd : d ∈ Meta.reports) (name : String) :
    readings (FamilyBuilder.empty.pushAll [Meta.up false]).finish d.name
      (Meta.labels name) = [] := by
  have hup : (Meta.up false).desc.name ≠ d.name := (Meta.name_ne_up d hd).symm
  rw [readings_finish, kept_cons_of_ne hup]
  rfl

end Flight

namespace Session

variable {σ : Type} {e : Exporter} {c : Connector σ} {world : σ} {now : Nat} {r : ScrapeRequest}
  {allowed : Scraper → Prop} {name : String}

/-- A scraper is noted as failed exactly if the answer says that it did not succeed. -/
theorem count_failures (hw : e.registry.WellFormed allowed) (u : Session e c world now r)
    (hd : u.Undisputed Meta.successDesc name) : u.final.failures.count name =
      ((readings u.families Meta.successDesc.name (Meta.labels name)).any
          Reading.isZero).toNat := by
  obtain ⟨log, hl⟩ := u.exists_log
  have hr : Meta.successDesc ∈ Meta.reports := by simp [Meta.reports]
  by_cases hn : name ∈ u.scripts.map (·.1)
  · obtain ⟨⟨name, script⟩, hs, rfl⟩ := List.mem_map.1 hn
    obtain ⟨i, hi⟩ := List.mem_iff_getElem?.1 hs
    obtain ⟨o, out, elapsed, ho, he, hsent⟩ := hl.sent i name script hi
    have hmem := List.mem_of_getElem? ho
    have hnoted : name ∈ u.final.failures ↔ o.isNoted = true := by
      rw [mem_failures]
      constructor
      · rintro ⟨o', ho', hn'⟩
        rwa [outcome_unique hw u hmem ho']
      · intro hn'
        exact ⟨o, hmem, hn'⟩
    rw [readings_executed hw hl hr hd hi he hsent, List.Nodup.count (nodup_failures hw u)]
    simp only [hnoted, Meta.reported_success]
    cases o <;> rfl
  · have hnone : name ∉ u.final.failures := by
      rw [mem_failures]
      rintro ⟨o, ho, -⟩
      rw [← outcomes_names] at hn
      exact hn (List.mem_map_of_mem ho)
    rw [readings_not_executed hl hr hd hn, List.count_eq_zero_of_not_mem hnone]
    rfl

end Session

namespace Flight

variable {σ : Type} {f : Flight} {c : Connector σ} {now : Nat} {registry : Registry}
  {allowed : Scraper → Prop}

/-- A request that is over has been counted if it was accepted. -/
theorem Sound.isCounted_eq (h : Sound registry c now f.request f.progress)
    (ho : f.isOver = true) :
    f.isCounted = decide ((Exporter.new registry).Accepts c f.request) := by
  unfold isOver at ho
  unfold isCounted
  split at ho
  · rename_i result run hp
    rw [hp] at h ⊢
    cases h with
    | refused hr =>
      have hnot : ¬ (Exporter.new registry).Accepts c f.request := by
        rw [← Exporter.exists_resolve_iff]
        rintro ⟨entries, hok⟩
        rw [hr] at hok
        cases hok
      simp [hnot]
    | overflow hr | down hr hs =>
      have hyes := Exporter.exists_resolve_iff.1 ⟨_, hr⟩
      simp [hyes]
    | up u he stats =>
      have hyes := Exporter.exists_resolve_iff.1 ⟨_, (Exporter.resolve_eq he).symm.trans u.resolved⟩
      simp [hyes]
  · cases ho

/-- What an answer says about who did not succeed is what was noted. -/
theorem Sound.count_failures (hr : registry.Reachable allowed)
    (h : Sound registry c now f.request f.progress) (ho : f.isOver = true) (hu : f.Undisputed)
    (name : String) : f.failures.count name = (f.showsFailure name).toNat := by
  have hd : Meta.successDesc ∈ Meta.reports := by simp [Meta.reports]
  unfold isOver at ho
  unfold Undisputed at hu
  unfold failures showsFailure
  unfold run? at hu ⊢
  split at ho
  · rename_i result run hp
    rw [hp] at h hu ⊢
    cases h with
    | refused _ | overflow _ => rfl
    | down _ _ =>
      dsimp only
      rw [readings_down hd]
      rfl
    | up u he stats =>
      have hund : u.Undisputed Meta.successDesc name := fun p hp s hs hn => by
        exact absurd hn (hu _ rfl p hp s hs)
      dsimp only
      rw [readings_session u stats hd]
      exact Session.count_failures (he ▸ hr.wellFormed) u hund
  · cases ho

/-- A request that was answered is flawed unless it has succeeded. -/
theorem Sound.isFlawed_eq_false (hr : registry.Reachable allowed)
    (h : Sound registry c now f.request f.progress) (ha : f.isAnswered = true) :
    f.isFlawed = false ↔ f.Succeeded registry c := by
  constructor
  · intro hflaw
    unfold isAnswered at ha
    unfold isFlawed run? at hflaw
    split at ha
    · rename_i fs run hp
      have hs := h
      rw [hp] at hs hflaw
      cases hs with
      | down _ _ => cases hflaw
      | up u he stats =>
        exact ⟨_, _, _, u, _, he, hp, (Session.failed_eq_false (he ▸ hr.wellFormed) u).1 hflaw⟩
    · cases ha
  · rintro ⟨e, world, began, u, fs, he, hp, hok⟩
    simp only [isFlawed, run?, hp, Option.map_some, Option.getD_some]
    exact (Session.failed_eq_false (he ▸ hr.wellFormed) u).2 hok

end Flight

namespace Overlap

variable {σ : Type} {c : Connector σ} {o o' : Overlap σ} {registry : Registry}
  {requests : List (Nat × ScrapeRequest)}

/-! ## Sums over the requests -/

/-- What is counted is the sum over the requests. -/
structure Counts (o : Overlap σ) : Prop where
  reachable : o.exporter.stats.Reachable
  scrapes : o.exporter.stats.scrapes = o.flights.countP Flight.isCounted
  errors : ∀ name, (o.exporter.stats.errorsOf name).1 =
    (o.flights.map fun f => f.failures.count name).sum

theorem counts_new (registry : Registry) (world : σ) (now : Nat)
    (requests : List (Nat × ScrapeRequest)) :
    Counts (new (.new registry) world now requests) where
  reachable := .new
  scrapes := by
    symm
    refine List.countP_eq_zero.2 fun f hf => ?_
    obtain ⟨q, -, rfl⟩ := List.mem_map.1 hf
    simp [Flight.isCounted]
  errors name := by simp [new, Flight.failures, Flight.run?, Function.comp_def, Exporter.new,
    ScrapeStats.errorsOf]

/-! ## The last request to end -/

/-- Those that were answered have ended, each once, and the last of them says whether it was
flawed. -/
structure Ends (o : Overlap σ) : Prop where
  nodup : o.ended.Nodup
  ended : ∀ i, i ∈ o.ended ↔ ∃ f, o.flights[i]? = some f ∧ f.isAnswered = true
  last : ∀ i ∈ o.ended.getLast?, ∃ f, o.flights[i]? = some f ∧
    o.exporter.stats.lastFailed = f.isFlawed
  first : o.ended = [] → o.exporter.stats.lastFailed = false

theorem ends_new (registry : Registry) (world : σ) (now : Nat)
    (requests : List (Nat × ScrapeRequest)) :
    Ends (new (.new registry) world now requests) where
  nodup := List.nodup_nil
  ended i := by
    refine iff_of_false List.not_mem_nil ?_
    rintro ⟨f, hf, ha⟩
    obtain ⟨q, -, rfl⟩ := List.mem_map.1 (List.mem_of_getElem? hf)
    cases ha
  last i hi := by cases hi
  first _ := rfl

/-! ## Every turn -/

section Moves

variable {i : Nat} {f : Flight} {moved : Flight.Moved σ} (hf : o.flights[i]? = some f)
  (ha : f.Adds { f with progress := moved.1 } o.exporter.stats moved.2.1.stats)

include hf ha

/-- A move adds to a sum what it adds to the request that moves. -/
theorem Counts.after (t : o.Counts) : (o.after i f moved).Counts := by
  obtain ⟨pre, post, hsplit, hset⟩ := exists_split_of_getElem? hf
  refine ⟨ha.reachable, ?_, fun name => ?_⟩
  · have hold := t.scrapes
    have hadd := ha.scrapes
    rw [hsplit] at hold
    simp only [Overlap.after, hset, List.countP_append, List.countP_cons] at hold ⊢
    have hnat : ∀ b : Bool, (if b = true then 1 else 0) = b.toNat := by decide
    rw [hnat] at hold ⊢
    omega
  · have hold := t.errors name
    have hadd := ha.errors name
    rw [hsplit] at hold
    simp only [Overlap.after, hset, List.map_append, List.map_cons, List.sum_append, List.sum_cons]
      at hold ⊢
    omega

theorem Ends.not_mem (t : o.Ends) : i ∉ o.ended := by
  intro hi
  obtain ⟨g, hg, hanswered⟩ := (t.ended i).1 hi
  rw [hf] at hg
  cases hg
  rw [ha.unanswered] at hanswered
  cases hanswered

/-- Who moves has not ended before; it ends with this move, or nothing has changed about ends. -/
theorem Ends.after (t : o.Ends) : (o.after i f moved).Ends := by
  have hnew := t.not_mem hf ha
  have hlast := ha.last
  have hlt := (List.getElem?_eq_some_iff.1 hf).1
  cases hb : Flight.isAnswered { f with progress := moved.1 } with
  | true =>
    rw [hb, if_pos rfl] at hlast
    refine ⟨?_, fun j => ?_, fun j hj => ?_, fun hnil => ?_⟩
    · simp only [Overlap.after, hb, if_true]
      rw [List.nodup_append_comm]
      exact List.nodup_cons.2 ⟨hnew, t.nodup⟩
    · simp only [Overlap.after, hb, if_true]
      by_cases hj : j = i
      · subst hj
        simp [List.getElem?_set_self hlt, hb]
      · rw [List.getElem?_set_ne (Ne.symm hj), ← t.ended j]
        simp [hj]
    · simp only [Overlap.after, hb, if_true, List.getLast?_concat, Option.mem_some_iff] at hj
      subst hj
      exact ⟨_, List.getElem?_set_self hlt, hlast⟩
    · simp [Overlap.after, hb] at hnil
  | false =>
    rw [hb, if_neg Bool.false_ne_true] at hlast
    refine ⟨?_, fun j => ?_, fun j hj => ?_, fun hnil => ?_⟩
    · simp only [Overlap.after, hb, Bool.false_eq_true, if_false]
      exact t.nodup
    · simp only [Overlap.after, hb, Bool.false_eq_true, if_false]
      by_cases hj : j = i
      · subst hj
        simp [List.getElem?_set_self hlt, hb, hnew]
      · rw [List.getElem?_set_ne (Ne.symm hj), t.ended j]
    · simp only [Overlap.after, hb, Bool.false_eq_true, if_false] at hj
      obtain ⟨g, hg, hflaw⟩ := t.last j hj
      have hne : i ≠ j := fun he => hnew (he ▸ List.mem_of_getLast? hj)
      exact ⟨g, (List.getElem?_set_ne hne).trans hg, hlast.trans hflaw⟩
    · simp only [Overlap.after, hb, Bool.false_eq_true, if_false] at hnil
      exact hlast.trans (t.first hnil)

end Moves

/-- The totals are those of the requests. -/
structure Tally (o : Overlap σ) : Prop where
  counts : o.Counts
  ends : o.Ends

/-- Time changes nothing about the totals. -/
theorem Tally.wait (t : o.Tally) (moment : Nat) :
    Tally { o with now := moment, flights := o.flights.map (·.atMoment moment) } := by
  have heq := fun f : Flight => f.eq_of_atMoment moment
  have hget : ∀ i : Nat, (o.flights.map (·.atMoment moment))[i]? =
      (o.flights[i]?).map (·.atMoment moment) := fun i => List.getElem?_map
  constructor
  · refine ⟨t.counts.reachable, ?_, fun name => ?_⟩
    · simpa [List.countP_map, Function.comp_def, heq] using t.counts.scrapes
    · simpa [Function.comp_def, heq] using t.counts.errors name
  · refine ⟨t.ends.nodup, fun i => ?_, fun i hi => ?_, t.ends.first⟩
    · rw [t.ends.ended i]
      simp [hget, heq]
    · obtain ⟨f, hf, hlast⟩ := t.ends.last i hi
      refine ⟨f.atMoment moment, by simp [hget, hf], ?_⟩
      rw [(heq f).2.2.2]
      exact hlast

theorem Tally.step {turn : Turn} (t : o.Tally) (h : o.step c turn = some o') : o'.Tally := by
  cases turn with
  | flight i move =>
    obtain ⟨f, moved, hf, hgoes, rfl⟩ := step_flight h
    have hadds := hgoes.adds t.counts.reachable
    exact ⟨t.counts.after hf hadds, t.ends.after hf hadds⟩
  | wait =>
    obtain ⟨-, moment, -, -, rfl⟩ := step_wait h
    exact t.wait moment

theorem tally_of_reaches (h : Reaches c o o') (t : o.Tally) : o'.Tally := by
  induction h with
  | refl => exact t
  | turn turn _ hs ih => exact ih.step hs

/-! ## Totals and answers -/

/-- The totals say what the answers say. -/
structure Agree (registry : Registry) (c : Connector σ) (requests : List (Nat × ScrapeRequest))
    (o : Overlap σ) : Prop where
  asked : o.flights.map (fun f => (f.arrival, f.request)) = requests
  scrapes : o.exporter.stats.scrapes =
    requests.countP fun q => decide ((Exporter.new registry).Accepts c q.2)
  errors : ∀ name,
    (o.exporter.stats.errorsOf name).1 = o.flights.countP fun f => f.showsFailure name
  nodup : o.ended.Nodup
  ended : ∀ i, i ∈ o.ended ↔ ∃ f, o.flights[i]? = some f ∧ f.isAnswered = true
  last : ∀ i f, o.ended.getLast? = some i → o.flights[i]? = some f →
    (o.exporter.stats.lastFailed = false ↔ f.Succeeded registry c)
  first : o.ended = [] → o.exporter.stats.lastFailed = false

/-- **Totals.** Whatever requests are made of an exporter, whenever they arrive and in whatever
order their scrapes move: once all of them are over, the scrapes are the requests that were
accepted, the failures of a scraper are the answers that say of it that it did not succeed, and the
last scrape to end was flawed unless it had its server and every scraper that ran for it came to a
good end in time. No scraper may say anything itself about who succeeded. -/
theorem totals_agree {allowed : Scraper → Prop} {world : σ} {now : Nat}
    (hr : registry.Reachable allowed) (h : Reaches c (new (.new registry) world now requests) o)
    (hover : ∀ f ∈ o.flights, f.isOver = true) (hu : ∀ f ∈ o.flights, f.Undisputed) :
    o.Agree registry c requests := by
  have hs : Sound registry c requests o :=
    sound_of_reaches h (sound_new (.new registry) world now requests)
  obtain ⟨hcounts, hends⟩ : o.Tally := tally_of_reaches h
    ⟨counts_new registry world now requests, ends_new registry world now requests⟩
  refine ⟨hs.asked, ?_, fun name => ?_, hends.nodup, hends.ended, fun i f hi hf => ?_, hends.first⟩
  · rw [hcounts.scrapes, ← hs.asked, List.countP_map]
    refine List.countP_congr fun f hf => ?_
    rw [(hs.each f hf).isCounted_eq (hover f hf)]
    rfl
  · rw [hcounts.errors name]
    exact sum_eq_countP fun f hf => (hs.each f hf).count_failures hr (hover f hf) (hu f hf) name
  · obtain ⟨g, hg, hlast⟩ := hends.last i hi
    rw [hf] at hg
    cases hg
    obtain ⟨g, hg, ha⟩ := (hends.ended i).1 (List.mem_of_getLast? hi)
    rw [hf] at hg
    cases hg
    rw [hlast]
    exact (hs.each f (List.mem_of_getElem? hf)).isFlawed_eq_false hr ha

end Overlap

/-- One scraper sleeps and one fails. -/
def mixedTasks : List (String × Task) := [("slow", .sleep 5 .done), ("wrong", .fail "no")]

/-- Two requests overlap, and one is refused meanwhile. -/
def mixedRequests : List (Nat × ScrapeRequest) :=
  [(0, .brief "slow,wrong"), (2, .brief "slow"), (3, .brief "nobody")]

/-- The second request begins while the first sleeps, and ends after it. -/
def mixedTurns : List Overlap.Turn :=
  let run (i : Nat) (choices : List Choice) : List Overlap.Turn :=
    choices.map fun choice => .flight i (.run choice)
  let ends (k : Nat) : List Choice := [.work k, .work k, .drain, .work k, .drain, .work k]
  [.flight 0 .begin, .flight 0 .connect] ++ run 0 (.work 0 :: ends 1) ++
    [.wait, .flight 1 .begin, .flight 1 .connect] ++ run 1 [.work 0] ++
    [.wait, .flight 2 .begin, .wait] ++ run 0 (.work 0 :: ends 0) ++ [.flight 0 .finish] ++
    .wait :: run 1 (.work 0 :: ends 0) ++ [.flight 1 .finish]

theorem totals_agree_mixed : ∃ o : Overlap Unit,
    Overlap.Reaches (.to .silent) (.new (.ofTasks mixedTasks) () 0 mixedRequests) o ∧
    (∀ f ∈ o.flights, f.isOver = true) ∧ (∀ f ∈ o.flights, f.Undisputed) ∧
    o.Agree (Exporter.ofTasks mixedTasks).registry (.to .silent) mixedRequests ∧
    o.ended = [0, 1] ∧ o.exporter.stats.scrapes = 2 ∧
    (o.exporter.stats.errorsOf "wrong").1 = 1 ∧ o.exporter.stats.lastFailed = false := by
  obtain ⟨o, hplay, hover, hscripts, hended, hcount, herrors, hlast⟩ : ∃ o : Overlap Unit,
      Overlap.play (.to .silent) mixedTurns (.new (.ofTasks mixedTasks) () 0 mixedRequests) =
        some o ∧ o.flights.all (·.isOver) = true ∧
      o.flights.map (fun f => f.run?.map (·.scripts)) =
        [some [("slow", ⟨[.sleep 5], .ok⟩), ("wrong", ⟨[], .failed "no"⟩)],
          some [("slow", ⟨[.sleep 5], .ok⟩)], none] ∧
      o.ended = [0, 1] ∧ o.exporter.stats.scrapes = 2 ∧
      (o.exporter.stats.errorsOf "wrong").1 = 1 ∧ o.exporter.stats.lastFailed = false :=
    ⟨_, rfl, rfl, rfl, rfl, rfl, rfl, rfl⟩
  have hreach := Overlap.reaches_of_play hplay
  have hall : ∀ f ∈ o.flights, f.isOver = true := List.all_eq_true.1 hover
  have hund : ∀ f ∈ o.flights, f.Undisputed := by
    intro f hf run hrun p hp s hs
    have hmem := List.mem_map_of_mem (f := fun f => f.run?.map (·.scripts)) hf
    rw [hscripts, Option.mem_def.1 hrun] at hmem
    simp only [Option.map_some, List.mem_cons, Option.some.injEq, List.not_mem_nil, or_false,
      reduceCtorEq] at hmem
    rcases hmem with hmem | hmem <;> rw [hmem] at hp <;>
      simp only [List.mem_cons, List.not_mem_nil, or_false] at hp
    · rcases hp with rfl | rfl <;> simp [Script.emitted] at hs
    · subst hp
      simp [Script.emitted] at hs
  exact ⟨o, hreach, hall, hund,
    Overlap.totals_agree (Exporter.reachable_ofTasks _) hreach hall hund,
    hended, hcount, herrors, hlast⟩

end MysqlMetrics
