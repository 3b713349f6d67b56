import MysqlMetrics.Proofs.Scrape.Failures
import MysqlMetrics.Proofs.Scrape.Idling
import MysqlMetrics.Proofs.Scrape.Refusal
import MysqlMetrics.Scrape.Overlap
/-!
# Scrapes that overlap are scrapes

Of several requests each goes its own way: what is known of one (`Flight.Sound`) is kept by its own
moves and by the clock, whatever the others do. A request that has its server comes to the end of a
session of its own, of an exporter with the same scrapers and the descriptors that were kept when
the run began; only the totals at the end of its answer are those of all. So what holds of a single
scrape holds of every one of them. Every order of moves ends, and then all requests are over
(`Overlap.Sound.exists_over`). And one request alone goes the way of `Exporter.scrape`
(`Overlap.reaches_scrape`).
-/
namespace MysqlMetrics

namespace Exporter

variable {σ : Type} {e : Exporter} {c : Connector σ} {r : ScrapeRequest} {registry : Registry}

/-- What is asked for depends on the registry alone. -/
theorem resolve_eq (h : e.registry = registry) : e.resolve c r = (new registry).resolve c r := by
  subst h
  rfl

/-- It is not clear before a scrape begins whether it has a server. -/
theorem le_of_reached {now limit clear : Nat} {a : Attempt} {server : Option Server}
    (h : reached now (now + limit) a = (server, clear)) : now ≤ clear := by
  have hclear := congrArg Prod.snd h
  unfold reached at hclear
  split at hclear <;> dsimp only at hclear <;> omega

end Exporter

namespace Flight

variable {σ : Type}

/-! ## Moves -/

/-- What a request may do, how far that takes it, and what it leaves. -/
inductive Goes (f : Flight) (c : Connector σ) (e : Exporter) (world : σ) (now : Nat) :
    Move → Moved σ → Prop
  | refuse {err : ScrapeError} (hp : f.progress = .awaited)
    (hr : e.resolve c f.request = .error err) :
    Goes f c e world now .begin (.done (.refused err) none, e, world)
  | overflow {entries : List RegistryEntry} (hp : f.progress = .awaited)
    (hr : e.resolve c f.request = .ok entries)
    (hm : Exporter.isMoment now f.request.timeout = false) :
    Goes f c e world now .begin
      (.done (.panicked Exporter.momentMessage) none,
        { e with stats := e.stats.beginScrape }, world)
  | depart {entries : List RegistryEntry} (hp : f.progress = .awaited)
    (hr : e.resolve c f.request = .ok entries)
    (hm : Exporter.isMoment now f.request.timeout = true) {server : Option Server} {clear : Nat}
    (hs : Exporter.reached now (now + f.request.timeout.ceilMillis)
      (c.acquire f.request.target world).1 = (server, clear)) :
    Goes f c e world now .begin
      (.connecting now entries server clear, { e with stats := e.stats.beginScrape },
        (c.acquire f.request.target world).2)
  | miss {began clear : Nat} {entries : List RegistryEntry}
    (hp : f.progress = .connecting began entries none clear) (hc : clear ≤ now) :
    Goes f c e world now .connect
      (.done (.families e.finishDown.1) none, e.finishDown.2, world)
  | late {began clear : Nat} {entries : List RegistryEntry} {s : Server}
    (hp : f.progress = .connecting began entries (some s) clear) (hc : clear ≤ now)
    (hm : Exporter.isMoment began ⟨f.request.timeout.nanos + Exporter.grace.nanos⟩ = false) :
    Goes f c e world now .connect (.done (.panicked Exporter.momentMessage) none, e, world)
  | land {began clear : Nat} {entries : List RegistryEntry} {s : Server}
    (hp : f.progress = .connecting began entries (some s) clear) (hc : clear ≤ now)
    (hm : Exporter.isMoment began ⟨f.request.timeout.nanos + Exporter.grace.nanos⟩ = true)
    {scripts : List (String × Script)} {caches : SortedTable String DescCache}
    {queries : List String}
    (hu : Exporter.unroll s e.caches (Exporter.eligible s entries) = (scripts, caches, queries)) :
    Goes f c e world now .connect
      (.running ⟨scripts, Machine.new now (began + f.request.timeout.ceilMillis) scripts⟩,
        { e with caches := caches }, world)
  | run {run : Run} {choice : Choice} {m : Machine} (hp : f.progress = .running run)
    (hw : choice ≠ .wait) (hs : run.machine.step choice = some m) :
    Goes f c e world now (.run choice) (ran run m e world)
  | finish {run : Run} (hp : f.progress = .running run) (hd : run.machine.isDone = true) :
    Goes f c e world now .finish (finished run e world)

variable {f : Flight} {c : Connector σ} {e : Exporter} {world : σ} {now : Nat} {move : Move}
  {moved : Moved σ}

theorem goes_begun (hp : f.progress = .awaited) :
    f.Goes c e world now .begin (begun f.request c e world now) := by
  unfold begun
  cases hr : e.resolve c f.request with
  | error err => exact .refuse hp hr
  | ok entries =>
    cases hm : Exporter.isMoment now f.request.timeout with
    | false => exact .overflow hp hr hm
    | true => exact .depart hp hr hm rfl

theorem goes_connected {began clear : Nat} {entries : List RegistryEntry} {server : Option Server}
    (hp : f.progress = .connecting began entries server clear) (hc : clear ≤ now) :
    f.Goes c e world now .connect (connected f.request e world now began entries server) := by
  unfold connected
  cases server with
  | none => exact .miss hp hc
  | some s =>
    cases hm : Exporter.isMoment began ⟨f.request.timeout.nanos + Exporter.grace.nanos⟩ with
    | false => simpa [hm] using Goes.late hp hc hm
    | true => simpa [hm] using Goes.land hp hc hm rfl

/-- A step is one of the moves. -/
theorem goes_of_step (h : f.step c e world now move = some moved) :
    f.Goes c e world now move moved := by
  cases move with
  | begin =>
    simp only [step] at h
    split at h
    · rename_i hp
      split at h <;> cases h
      exact goes_begun hp
    · cases h
  | connect =>
    simp only [step] at h
    split at h
    · rename_i hp
      split at h <;> cases h
      rename_i hc
      exact goes_connected hp hc
    · cases h
  | run choice =>
    simp only [step] at h
    split at h
    · rename_i hp
      split at h
      · cases h
      · rename_i hw
        obtain ⟨m, hs, rfl⟩ := Option.map_eq_some_iff.1 h
        exact .run hp hw hs
    · cases h
  | finish =>
    simp only [step] at h
    split at h
    · rename_i hp
      split at h <;> cases h
      rename_i hd
      exact .finish hp hd
    · cases h

/-! ## What is known of a request -/

/-- What is known of a request on its way, whatever others do. -/
inductive Sound (registry : Registry) (c : Connector σ) (now : Nat) (r : ScrapeRequest) :
    Progress → Prop
  | awaited : Sound registry c now r .awaited
  | refused {err : ScrapeError} (hr : (Exporter.new registry).resolve c r = .error err) :
    Sound registry c now r (.done (.refused err) none)
  | overflow {entries : List RegistryEntry}
    (hr : (Exporter.new registry).resolve c r = .ok entries) :
    Sound registry c now r (.done (.panicked Exporter.momentMessage) none)
  | connecting {world : σ} {began clear : Nat} {entries : List RegistryEntry}
    {server : Option Server} (hr : (Exporter.new registry).resolve c r = .ok entries)
    (hs : Exporter.reached began (began + r.timeout.ceilMillis) (c.acquire r.target world).1 =
      (server, clear)) (hc : now ≤ clear) :
    Sound registry c now r (.connecting began entries server clear)
  | down {world : σ} {began clear : Nat} {entries : List RegistryEntry}
    (hr : (Exporter.new registry).resolve c r = .ok entries)
    (hs : Exporter.reached began (began + r.timeout.ceilMillis) (c.acquire r.target world).1 =
      (none, clear)) :
    Sound registry c now r
      (.done (.families (FamilyBuilder.empty.pushAll [Meta.up false]).finish) none)
  | running {e : Exporter} {world : σ} {began : Nat} (u : Session e c world began r)
    (he : e.registry = registry) {m : Machine}
    (hm : Machine.Shares (Machine.new u.start u.deadline u.scripts) m) (hn : m.now = now) :
    Sound registry c now r (.running ⟨u.scripts, m⟩)
  | up {e : Exporter} {world : σ} {began : Nat} (u : Session e c world began r)
    (he : e.registry = registry) (stats : ScrapeStats) :
    Sound registry c now r
      (.done (.families (u.final.builder.finish ++ stats.gather)) (some ⟨u.scripts, u.final⟩))

variable {registry : Registry}

theorem Goes.registry_eq (h : f.Goes c e world now move moved) :
    moved.2.1.registry = e.registry := by
  cases h <;> rfl

/-- A run that is done is the end of a session, under a schedule of its own. -/
theorem exists_session {e : Exporter} {began : Nat} {r : ScrapeRequest}
    (u : Session e c world began r) {m : Machine}
    (hm : Machine.Shares (Machine.new u.start u.deadline u.scripts) m) (hd : m.isDone = true) :
    ∃ (e' : Exporter) (u' : Session e' c world began r), e'.registry = e.registry ∧
      u'.scripts = u.scripts ∧ u'.final = m := by
  obtain ⟨hreach, hset⟩ := hm.settled u.start_le_deadline hd
  obtain ⟨schedule, hrun⟩ := Machine.Schedule.through hreach hset
  exact ⟨{ e with schedule := schedule },
    ⟨u.entries, u.server, u.start, u.resolved, u.reached, u.moment⟩, rfl, rfl, hrun⟩

/-- A move keeps what is known of the request. -/
theorem Goes.sound (h : f.Goes c e world now move moved) (he : e.registry = registry)
    (hs : Sound registry c now f.request f.progress) : Sound registry c now f.request moved.1 := by
  cases h with
  | refuse hp hr => exact .refused (Exporter.resolve_eq he ▸ hr)
  | overflow hp hr hm => exact .overflow (Exporter.resolve_eq he ▸ hr)
  | depart hp hr hm hreach =>
    exact .connecting (Exporter.resolve_eq he ▸ hr) hreach (Exporter.le_of_reached hreach)
  | miss hp hc =>
    rw [hp] at hs
    cases hs with
    | connecting hr hreach _ => exact .down hr hreach
  | late hp hc hm =>
    rw [hp] at hs
    cases hs with
    | connecting hr _ _ => exact .overflow hr
  | @land began clear entries s hp hc hm scripts caches queries hu =>
    rw [hp] at hs
    cases hs with
    | @connecting world' _ _ _ _ hr hreach hclear =>
      -- time has not passed the moment at which it is clear, and this is not before it
      obtain rfl : now = clear := Nat.le_antisymm hclear hc
      let u : Session e c world' began f.request :=
        ⟨entries, s, now, (Exporter.resolve_eq he).trans hr, hreach, hm⟩
      have hscripts : u.scripts = scripts := congrArg Prod.fst hu
      have hrunning : Sound registry c now f.request
          (.running ⟨u.scripts, Machine.new u.start u.deadline u.scripts⟩) :=
        .running u he (.refl _) rfl
      rw [hscripts] at hrunning
      exact hrunning
  | run hp hw hstep =>
    rw [hp] at hs
    cases hs with
    | running u hu hm hn =>
      have hnow := Machine.now_of_step hstep hw
      exact .running u hu (hm.step u.start_le_deadline hw hstep) (hnow.trans hn)
  | finish hp hd =>
    rw [hp] at hs
    cases hs with
    | running u hu hm hn =>
      obtain ⟨e', u', he', hscripts, rfl⟩ := exists_session u hm hd
      have hup : Sound registry c now f.request _ :=
        .up u' (he'.trans hu) (e.stats.endScrape u'.final.failed)
      rw [hscripts] at hup
      exact hup

@[simp] theorem atMoment_request (f : Flight) (t : Nat) : (f.atMoment t).request = f.request := by
  unfold atMoment
  split <;> rfl

@[simp] theorem atMoment_arrival (f : Flight) (t : Nat) : (f.atMoment t).arrival = f.arrival := by
  unfold atMoment
  split <;> rfl

/-- A timer is to come. -/
theorem Sound.lt_timer {t : Nat} (h : Sound registry c now f.request f.progress)
    (ht : t ∈ f.timers now) : now < t := by
  unfold timers at ht
  split at ht
  · simpa using (List.mem_filter.1 ht).2
  · simpa using (List.mem_filter.1 ht).2
  · rename_i run hp
    rw [hp] at h
    cases h with
    | running u he hm hn =>
      rw [← hn]
      simpa using (List.mem_filter.1 ht).2
  · cases ht

/-- Time passes over a request that cannot move, up to its next timer. -/
theorem Sound.wait {t : Nat} (h : Sound registry c now f.request f.progress) (hn : now ≤ t)
    (hc : f.canMove now = false) (ht : ∀ τ ∈ f.timers now, t ≤ τ) :
    Sound registry c t f.request (f.atMoment t).progress := by
  unfold canMove at hc
  unfold timers at ht
  cases hp : f.progress with
  | awaited =>
    simp only [atMoment, hp]
    exact .awaited
  | connecting began entries server clear =>
    simp only [hp, atMoment, decide_eq_false_iff_not] at h hc ht ⊢
    cases h with
    | connecting hr hs hclear =>
      refine .connecting hr hs (ht _ ?_)
      rw [List.mem_filter]
      simp only [List.mem_singleton, true_and, decide_eq_true_eq]
      omega
  | running run =>
    simp only [hp, atMoment, Bool.or_eq_false_iff] at h hc ht ⊢
    cases h with
    | running u he hm hnow => exact .running u he (hm.wait hc.1 hc.2 (hnow ▸ hn) ht) rfl
  | done result run =>
    simp only [hp, atMoment] at h ⊢
    cases h with
    | refused hr => exact .refused hr
    | overflow hr => exact .overflow hr
    | down hr hs => exact .down hr hs
    | up u he stats => exact .up u he stats

/-! ## Every order of moves ends -/

/-- How far a request is from its end. -/
def stagesLeft (f : Flight) : Nat :=
  match f.progress with
  | .awaited => 3
  | .connecting _ _ _ _ => 2
  | .running _ => 1
  | .done _ _ => 0

/-- The moves within the stage, those of time with them. -/
def turnsLeft (f : Flight) (now : Nat) : Nat :=
  match f.progress with
  | .awaited => Machine.ahead now f.arrival
  | .connecting _ _ _ clear => Machine.ahead now clear
  | .running run => run.machine.turnsLeft
  | .done _ _ => 0

/-- A move leads to a later stage, or takes a turn of the stage. -/
theorem Goes.left_lt (h : f.Goes c e world now move moved) :
    stagesLeft { f with progress := moved.1 } < f.stagesLeft ∨
      stagesLeft { f with progress := moved.1 } = f.stagesLeft ∧
        turnsLeft { f with progress := moved.1 } now < f.turnsLeft now := by
  cases h with
  | refuse hp _ | overflow hp _ _ | depart hp _ _ _ | miss hp _ | late hp _ _ | land hp _ _ _ =>
    left
    simp [stagesLeft, hp]
  | finish hp _ =>
    left
    simp [stagesLeft, hp, finished]
  | run hp _ hs =>
    right
    simp only [stagesLeft, turnsLeft, hp, ran, true_and]
    exact Machine.turnsLeft_lt hs

theorem stagesLeft_atMoment (f : Flight) (t : Nat) : (f.atMoment t).stagesLeft = f.stagesLeft := by
  unfold atMoment
  split
  · rename_i run hp
    simp [stagesLeft, hp]
  · rfl

theorem Sound.turnsLeft_later {t : Nat} (h : Sound registry c now f.request f.progress)
    (hn : now ≤ t) : (f.atMoment t).turnsLeft t ≤ f.turnsLeft now := by
  cases hp : f.progress with
  | awaited =>
    simp only [atMoment, turnsLeft, hp]
    exact Machine.ahead_mono hn _
  | connecting began entries server clear =>
    simp only [atMoment, turnsLeft, hp]
    exact Machine.ahead_mono hn _
  | running run =>
    rw [hp] at h
    cases h with
    | running u he hm hnow =>
      simp only [atMoment, turnsLeft, hp]
      exact Machine.turnsLeft_later (hnow ▸ hn)
  | done result run =>
    simp only [atMoment, turnsLeft, hp]
    exact Nat.le_refl _

/-- The moment of a timer is no longer ahead. -/
theorem turnsLeft_timer {t : Nat} (h : t ∈ f.timers now) :
    (f.atMoment t).turnsLeft t < f.turnsLeft now := by
  cases hp : f.progress with
  | awaited =>
    simp only [timers, hp, List.mem_filter, List.mem_singleton, decide_eq_true_eq] at h
    obtain ⟨rfl, hlt⟩ := h
    simp only [atMoment, turnsLeft, hp]
    exact Machine.ahead_self_lt hlt
  | connecting began entries server clear =>
    simp only [timers, hp, List.mem_filter, List.mem_singleton, decide_eq_true_eq] at h
    obtain ⟨rfl, hlt⟩ := h
    simp only [atMoment, turnsLeft, hp]
    exact Machine.ahead_self_lt hlt
  | running run =>
    simp only [timers, hp] at h
    simp only [atMoment, turnsLeft, hp]
    exact Machine.turnsLeft_timer h
  | done result run =>
    simp [timers, hp] at h

/-- A request that is not over can move, or has a timer. -/
theorem Sound.isOver_of_stuck (h : Sound registry c now f.request f.progress)
    (hc : f.canMove now = false) (ht : f.timers now = []) : f.isOver = true := by
  unfold canMove at hc
  unfold timers at ht
  unfold isOver
  cases hp : f.progress with
  | awaited =>
    simp only [hp, decide_eq_false_iff_not] at hc
    simp [hp, hc] at ht
  | connecting began entries server clear =>
    simp only [hp, decide_eq_false_iff_not] at hc
    simp [hp, hc] at ht
  | running run =>
    rw [hp] at h
    simp only [hp, Bool.or_eq_false_iff] at hc ht
    cases h with
    | running u he hm hnow => exact absurd ht (hm.timers_ne_nil u.start_le_deadline hc.1 hc.2)
  | done result run => rfl

end Flight

namespace Overlap

variable {σ : Type} {c : Connector σ} {o o' : Overlap σ} {registry : Registry}
  {requests : List (Nat × ScrapeRequest)}

/-! ## What is known of all requests -/

/-- The registry is what it was, the requests are those that were made, and each is on its way. -/
structure Sound (registry : Registry) (c : Connector σ) (requests : List (Nat × ScrapeRequest))
    (o : Overlap σ) : Prop where
  kept : o.exporter.registry = registry
  asked : o.flights.map (fun f => (f.arrival, f.request)) = requests
  each : ∀ f ∈ o.flights, Flight.Sound registry c o.now f.request f.progress

theorem sound_new (e : Exporter) (world : σ) (now : Nat) (requests : List (Nat × ScrapeRequest)) :
    Sound e.registry c requests (new e world now requests) where
  kept := rfl
  asked := by simp [new, Function.comp_def]
  each f hf := by
    obtain ⟨q, -, rfl⟩ := List.mem_map.1 hf
    exact .awaited

theorem step_flight {i : Nat} {move : Flight.Move} (h : o.step c (.flight i move) = some o') :
    ∃ f moved, o.flights[i]? = some f ∧ f.Goes c o.exporter o.world o.now move moved ∧
      o' = o.after i f moved := by
  obtain ⟨f, hf, h⟩ := Option.bind_eq_some_iff.1 h
  obtain ⟨moved, hm, rfl⟩ := Option.map_eq_some_iff.1 h
  exact ⟨f, moved, hf, Flight.goes_of_step hm, rfl⟩

theorem step_wait (h : o.step c .wait = some o') : (∀ f ∈ o.flights, f.canMove o.now = false) ∧
    ∃ t, (∃ f ∈ o.flights, t ∈ f.timers o.now) ∧ (∀ f ∈ o.flights, ∀ τ ∈ f.timers o.now, t ≤ τ) ∧
      o' = { o with now := t, flights := o.flights.map (·.atMoment t) } := by
  have h : o.wait = some o' := h
  unfold wait at h
  split at h
  · cases h
  · rename_i hc
    obtain ⟨t, ht, rfl⟩ := Option.map_eq_some_iff.1 h
    obtain ⟨hmem, hmin⟩ := List.min?_eq_some_iff.1 ht
    refine ⟨by simpa using hc, t, List.mem_flatMap.1 hmem, fun f hf τ hτ => ?_, rfl⟩
    exact hmin τ (List.mem_flatMap.2 ⟨f, hf, hτ⟩)

/-- A turn keeps what is known: a move that of its request, and time that of all of them. -/
theorem Sound.step {turn : Turn} (s : Sound registry c requests o) (h : o.step c turn = some o') :
    Sound registry c requests o' := by
  cases turn with
  | flight i move =>
    obtain ⟨f, moved, hf, hgoes, rfl⟩ := step_flight h
    obtain ⟨pre, post, hsplit, hset⟩ := exists_split_of_getElem? hf
    have hmoved := hgoes.sound s.kept (s.each f (List.mem_of_getElem? hf))
    have hasked := s.asked
    have heach := s.each
    simp only [hsplit, List.map_append, List.map_cons, List.forall_mem_append, List.forall_mem_cons]
      at hasked heach
    refine ⟨hgoes.registry_eq.trans s.kept, ?_, ?_⟩
    · simpa [after, hset] using hasked
    · simp only [after, hset, List.forall_mem_append, List.forall_mem_cons]
      exact ⟨heach.1, hmoved, heach.2.2⟩
  | wait =>
    obtain ⟨hc, t, ⟨g, hg, ht⟩, hmin, rfl⟩ := step_wait h
    have hn := (s.each g hg).lt_timer ht
    refine ⟨s.kept, ?_, fun f' hf' => ?_⟩
    · simpa [Function.comp_def] using s.asked
    · obtain ⟨f, hf, rfl⟩ := List.mem_map.1 hf'
      rw [Flight.atMoment_request]
      exact (s.each f hf).wait (Nat.le_of_lt hn) (hc f hf) (hmin f hf)

theorem sound_of_reaches (h : Reaches c o o') (s : Sound registry c requests o) :
    Sound registry c requests o' := by
  induction h with
  | refl => exact s
  | turn turn _ hs ih => exact ih.step hs

/-! ## Every order of moves ends -/

def stagesLeft (o : Overlap σ) : Nat := (o.flights.map Flight.stagesLeft).sum

def turnsLeft (o : Overlap σ) : Nat := (o.flights.map (·.turnsLeft o.now)).sum

/-- A turn leads a request to a later stage, or takes a turn of the stages. -/
theorem Sound.left_lt {turn : Turn} (s : Sound registry c requests o)
    (h : o.step c turn = some o') : o'.stagesLeft < o.stagesLeft ∨
      o'.stagesLeft = o.stagesLeft ∧ o'.turnsLeft < o.turnsLeft := by
  cases turn with
  | flight i move =>
    obtain ⟨f, moved, hf, hgoes, rfl⟩ := step_flight h
    rcases hgoes.left_lt with hlt | ⟨heq, hlt⟩
    · exact .inl (sum_set_lt hf hlt)
    · exact .inr ⟨congrArg List.sum (map_set_eq hf heq), sum_set_lt hf hlt⟩
  | wait =>
    obtain ⟨-, t, ⟨g, hg, ht⟩, -, rfl⟩ := step_wait h
    right
    have hn := Nat.le_of_lt ((s.each g hg).lt_timer ht)
    simp only [stagesLeft, turnsLeft, List.map_map, Function.comp_def, Flight.stagesLeft_atMoment,
      true_and]
    exact List.sum_lt_sum _ _ (fun f hf => (s.each f hf).turnsLeft_later hn)
      ⟨g, hg, Flight.turnsLeft_timer ht⟩

theorem Reaches.head {turn : Turn} {o₁ o₂ : Overlap σ} (hs : o.step c turn = some o₁)
    (h : Reaches c o₁ o₂) : Reaches c o o₂ := by
  induction h with
  | refl => exact .turn turn .refl hs
  | turn turn _ hs ih => exact .turn turn ih hs

theorem reaches_of_play : ∀ {turns : List Turn} {o : Overlap σ}, play c turns o = some o' →
    Reaches c o o'
  | [], o, h => by
    cases h
    exact .refl
  | turn :: rest, o, h => by
    obtain ⟨o₁, hs, hrest⟩ := Option.bind_eq_some_iff.1 h
    exact (reaches_of_play hrest).head hs

/-- All can go on until nobody can. -/
theorem exists_settled {o : Overlap σ} (s : Sound registry c requests o) :
    ∃ o', Reaches c o o' ∧ o'.Settled c := by
  by_cases hset : o.Settled c
  · exact ⟨o, .refl, hset⟩
  · simp only [Settled, Classical.not_forall] at hset
    obtain ⟨turn, hstep⟩ := hset
    obtain ⟨o₁, hs⟩ := Option.ne_none_iff_exists'.1 hstep
    have hleft := s.left_lt hs
    obtain ⟨o', hr, hset'⟩ := exists_settled (s.step hs)
    exact ⟨o', hr.head hs, hset'⟩
termination_by (o.stagesLeft, o.turnsLeft)
decreasing_by
  rcases hleft with hlt | ⟨heq, hlt⟩
  · exact .left _ _ hlt
  · rw [heq]
    exact .right _ hlt

theorem canMove_of_settled (h : o.Settled c) : ∀ f ∈ o.flights, f.canMove o.now = false := by
  intro f hf
  obtain ⟨i, hi⟩ := List.mem_iff_getElem?.1 hf
  have hstuck : ∀ move, f.step c o.exporter o.world o.now move = none := by
    intro move
    have hnone := h (.flight i move)
    simpa [step, hi] using hnone
  unfold Flight.canMove
  split
  · rename_i hp
    have hbegin := hstuck .begin
    simpa [Flight.step, hp] using hbegin
  · rename_i hp
    have hconnect := hstuck .connect
    simpa [Flight.step, hp] using hconnect
  · rename_i run hp
    have hrun : ∀ choice, choice ≠ .wait → run.machine.step choice = none := by
      intro choice hw
      have hnone := hstuck (.run choice)
      simpa [Flight.step, hp, hw] using hnone
    have hdrain : run.machine.drain = none := hrun .drain (by simp)
    have hstop : run.machine.stop = none := hrun .stop (by simp)
    have hwork : ∀ j, run.machine.work j = none := fun j => hrun (.work j) (by simp)
    have hfinish := hstuck .finish
    simp only [Flight.step, hp] at hfinish
    simp [Machine.canMove, hdrain, hstop, hwork]
    simpa using hfinish
  · rfl

/-- Where nobody can go on, every request is over. -/
theorem Sound.isOver_of_settled (s : Sound registry c requests o) (h : o.Settled c) :
    ∀ f ∈ o.flights, f.isOver = true := by
  have hc := canMove_of_settled h
  have hwait : o.wait = none := h .wait
  have hany : o.flights.any (·.canMove o.now) = false := by
    simpa using hc
  simp only [wait, hany, Bool.false_eq_true, if_false, Option.map_eq_none_iff,
    List.min?_eq_none_iff, List.flatMap_eq_nil_iff] at hwait
  exact fun f hf => (s.each f hf).isOver_of_stuck (hc f hf) (hwait f hf)

/-- All requests can go on until they are over. -/
theorem Sound.exists_over (s : Sound registry c requests o) :
    ∃ o', Reaches c o o' ∧ ∀ f ∈ o'.flights, f.isOver = true := by
  obtain ⟨o', hr, hset⟩ := exists_settled s
  exact ⟨o', hr, (sound_of_reaches hr s).isOver_of_settled hset⟩

/-! ## One request alone -/

section Alone

variable {e : Exporter} {world : σ} {now : Nat} {f : Flight}

/-- One request before an exporter, not answered yet. -/
def alone (e : Exporter) (world : σ) (now : Nat) (f : Flight) : Overlap σ :=
  { exporter := e, world := world, now := now, flights := [f] }

theorem step_alone {move : Flight.Move} {moved : Flight.Moved σ}
    (h : f.step c e world now move = some moved) :
    (alone e world now f).step c (.flight 0 move) =
      some ((alone e world now f).after 0 f moved) := by
  simp [step, alone, h]

theorem wait_alone {t : Nat} (hc : f.canMove now = false) (ht : (f.timers now).min? = some t) :
    (alone e world now f).step c .wait = some (alone e world t (f.atMoment t)) := by
  show (alone e world now f).wait = _
  simp [wait, alone, hc, ht]

theorem reaches_begun (e : Exporter) (c : Connector σ) (world : σ) (now : Nat) (r : ScrapeRequest) :
    Reaches c (new e world now [(now, r)]) ((alone e world now ⟨now, r, .awaited⟩).after 0
      ⟨now, r, .awaited⟩ (Flight.begun r c e world now)) := by
  have hstep : Flight.step ⟨now, r, .awaited⟩ c e world now .begin =
      some (Flight.begun r c e world now) := by
    simp [Flight.step]
  exact .turn _ .refl (step_alone hstep)

/-- It takes its time until it is clear whether there is a server. -/
theorem reaches_connected {arrival began clear : Nat} {r : ScrapeRequest}
    {entries : List RegistryEntry} {server : Option Server} (hn : now ≤ clear)
    (h : Reaches c o (alone e world now ⟨arrival, r, .connecting began entries server clear⟩)) :
    Reaches c o ((alone e world clear ⟨arrival, r, .connecting began entries server clear⟩).after 0
      ⟨arrival, r, .connecting began entries server clear⟩
      (Flight.connected r e world clear began entries server)) := by
  have hclear : Reaches c o
      (alone e world clear ⟨arrival, r, .connecting began entries server clear⟩) := by
    by_cases heq : now = clear
    · exact heq ▸ h
    · have hlt : now < clear := by omega
      refine .turn .wait h (wait_alone ?_ ?_)
      · simpa [Flight.canMove] using hlt
      · simp [Flight.timers, hlt]
  have hstep : Flight.step ⟨arrival, r, .connecting began entries server clear⟩ c e world clear
      .connect = some (Flight.connected r e world clear began entries server) := by
    simp [Flight.step]
  exact .turn _ hclear (step_alone hstep)

/-- The run of a request alone is the run of its machine: each failure is counted once. -/
theorem reaches_run {first m : Machine} {arrival : Nat} {r : ScrapeRequest}
    {scripts : List (String × Script)} {stats : ScrapeStats} (hm : Machine.Reaches first m)
    (h : Reaches c o (alone { e with stats := stats.recordErrors first.failures } world first.now
      ⟨arrival, r, .running ⟨scripts, first⟩⟩)) :
    Reaches c o (alone { e with stats := stats.recordErrors m.failures } world m.now
      ⟨arrival, r, .running ⟨scripts, m⟩⟩) := by
  induction hm with
  | refl => exact h
  | @move m m' choice _ hs ih =>
    by_cases hw : choice = .wait
    · subst hw
      obtain ⟨hc, t, ht, rfl⟩ := Machine.wait_eq_some hs
      refine .turn .wait ih (wait_alone ?_ ht)
      simp only [Flight.canMove, hc, Bool.false_or, Bool.eq_false_iff]
      intro hd
      rw [Machine.isDone, Bool.and_eq_true, List.all_eq_true] at hd
      rw [Machine.timers_of_finished hd.1] at ht
      cases ht
    · have hstep : Flight.step ⟨arrival, r, .running ⟨scripts, m⟩⟩ c
          { e with stats := stats.recordErrors m.failures } world m.now (.run choice) =
          some (Flight.ran ⟨scripts, m⟩ m'
            { e with stats := stats.recordErrors m.failures } world) := by
        simp [Flight.step, hw, hs]
      obtain ⟨new, hnew⟩ := Machine.failures_isPrefix hs
      have hafter := Reaches.turn _ ih (step_alone hstep)
      have hstats : (stats.recordErrors m.failures).recordErrors
          (m'.failures.drop m.failures.length) = stats.recordErrors m'.failures := by
        rw [← hnew, List.drop_left]
        exact (List.foldl_append).symm
      rw [← hstats, Machine.now_of_step hs hw]
      exact hafter

/-- **One request alone.** A request that nobody else is beside comes to what `Exporter.scrape`
makes of it, and leaves the exporter, the way to the servers and the clock as it does. -/
theorem reaches_scrape (e : Exporter) (c : Connector σ) (world : σ) (now : Nat)
    (r : ScrapeRequest) :
    ∃ o run, Reaches c (new e world now [(now, r)]) o ∧
      o.exporter = (e.scrape c world now r).exporter ∧ o.world = (e.scrape c world now r).world ∧
      o.now = (e.scrape c world now r).now ∧
      o.flights = [⟨now, r, .done (e.scrape c world now r).result run⟩] := by
  have hbegin := reaches_begun e c world now r
  cases hr : e.resolve c r with
  | error err =>
    simp only [Flight.begun, hr] at hbegin
    rw [Exporter.scrape_of_error hr]
    exact ⟨_, none, hbegin, rfl, rfl, rfl, rfl⟩
  | ok entries =>
  cases hm : Exporter.isMoment now r.timeout with
  | false =>
    simp only [Flight.begun, hr, hm, Bool.not_false, if_true] at hbegin
    refine ⟨_, none, hbegin, ?_, ?_, ?_, ?_⟩ <;> simp [Exporter.scrape, hr, hm, after, alone]
  | true =>
  cases hreach : Exporter.reached now (now + r.timeout.ceilMillis) (c.acquire r.target world).1 with
  | mk server later =>
  simp only [Flight.begun, hr, hm, hreach, Bool.not_true, Bool.false_eq_true, if_false] at hbegin
  have hconnect := reaches_connected (Exporter.le_of_reached hreach) hbegin
  cases server with
  | none =>
    refine ⟨_, none, hconnect, ?_, ?_, ?_, ?_⟩ <;>
      simp [Exporter.scrape, hr, hm, hreach, after, alone, Flight.connected, Exporter.finishDown]
  | some s =>
  cases hg : Exporter.isMoment now ⟨r.timeout.nanos + Exporter.grace.nanos⟩ with
  | false =>
    refine ⟨_, none, hconnect, ?_, ?_, ?_, ?_⟩ <;>
      simp [Exporter.scrape, hr, hm, hreach, hg, after, alone, Flight.connected]
  | true =>
    let u : Session e c world now r := ⟨entries, s, later, hr, hreach, hg⟩
    simp only [Flight.connected, hg, Bool.not_true, Bool.false_eq_true, if_false] at hconnect
    have hlanded : Reaches c (new e world now [(now, r)]) (alone
        { u.outcome.exporter with stats := e.stats.beginScrape.recordErrors [] }
        (c.acquire r.target world).2 later
        ⟨now, r, .running ⟨u.scripts, Machine.new later u.deadline u.scripts⟩⟩) := hconnect
    have hrun := reaches_run u.final_reached hlanded
    have hstep : Flight.step ⟨now, r, .running ⟨u.scripts, u.final⟩⟩ c
        { u.outcome.exporter with stats := e.stats.beginScrape.recordErrors u.final.failures }
        (c.acquire r.target world).2 u.final.now .finish =
        some (Flight.finished ⟨u.scripts, u.final⟩
          { u.outcome.exporter with stats := e.stats.beginScrape.recordErrors u.final.failures }
          (c.acquire r.target world).2) := by
      simp [Flight.step, u.isDone_final]
    rw [Exporter.scrape_session u]
    exact ⟨_, some ⟨u.scripts, u.final⟩, .turn _ hrun (step_alone hstep), rfl, rfl, rfl, rfl⟩

end Alone

end Overlap
end MysqlMetrics
