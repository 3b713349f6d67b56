import MysqlMetrics.Proofs.Registry
import MysqlMetrics.Registry.Callers
/-!
# Histories of a registry

A history is what was called in turn, from a registry that nobody has used (`Registry.History`).
`Registry.Effect` says once what a call can do, and all that holds of a history comes from it, call
by call: the lifecycle moves forward only, scrapers stand under valid names of their own, they stay
from the binding of the flags to the teardown, and a reader gets all of them in order or waits.
However many threads call, and in whatever order, their calls are a history (`Callers.run_orderly`).
-/
namespace MysqlMetrics

open SortedTable

namespace Registry

variable {r r' : Registry} {call : Call} {answer : Answer}

/-! ## What a call does -/

/-- All of a registry's entries but their arguments. -/
def outline (r : Registry) : List (String × Scraper × Bool × Bool) :=
  r.entries.map fun p => (p.1, p.2.scraper, p.2.enabledDefault, p.2.enabled)

theorem scrapers_eq_of_outline (h : r'.outline = r.outline) : r'.scrapers = r.scrapers := by
  simpa [outline, scrapers, Function.comp_def] using congrArg (List.map fun q => (q.1, q.2.1)) h

/-- Does the caller have to wait for the registry? -/
def Call.waits : Call → Bool
  | .all | .enabled => true
  | _ => false

/-- What a call that is answered does to a registry. -/
inductive Effect (r : Registry) : Call → Answer → Registry → Prop
  | registered {s : Scraper} {enabledDefault : Bool} (hs : r.state = .uninitialized)
    (hn : IsName s.name) (hnew : has s.name r.entries = false) :
    Effect r (.register s enabledDefault) .done
      { r with entries := insert s.name ⟨s, enabledDefault, enabledDefault, s.argSet⟩ r.entries }
  | bound (hs : r.state = .uninitialized) :
    Effect r .init (.flags r.flags) { r with state := .flagsPending }
  | applied {m : CommandLine.Matches} {a : Applied} {r' : Registry} (hs : r.state = .flagsPending)
    (hs' : r'.state = .ready) (he : r'.scrapers = r.scrapers) :
    Effect r (.onParsed m) (.applied a) r'
  | configured {name : String} {args : List Arg} {r' : Registry} (hs : r'.state = r.state)
    (he : r'.scrapers = r.scrapers) : Effect r (.configure name args) .done r'
  | switched {name : String} {enabled : Bool} {r' : Registry} (hs : r'.state = r.state)
    (he : r'.scrapers = r.scrapers) : Effect r (.setEnabled name enabled) .done r'
  | tornDown : Effect r .teardown .done ⟨.tornDown, []⟩
  | refused {call : Call} {err : RegistryError} {r' : Registry} (hc : call.waits = false)
    (hs : r'.state = r.state) (he : r'.outline = r.outline) : Effect r call (.refused err) r'
  | all (hs : r.state.isSettled = true) : Effect r .all (.scrapers (values r.entries)) r
  | enabled (hs : r.state.isSettled = true) :
    Effect r .enabled (.scrapers ((values r.entries).filter (·.enabled))) r
  | found {name : String} : Effect r (.lookup name) (.found (r.lookup name)) r
  | asked {name : String} : Effect r (.isEnabled name) (.truth (r.isEnabled name)) r
  | settled : Effect r .isReady (.truth r.isReady) r
  | described : Effect r .describe (.described r.describe) r

theorem effect_register {s : Scraper} {enabledDefault : Bool}
    (h : r.changed (r.register s enabledDefault) = (answer, r')) :
    Effect r (.register s enabledDefault) answer r' := by
  cases hr : r.register s enabledDefault with
  | error err => rw [hr] at h; cases h; exact .refused rfl rfl rfl
  | ok r'' =>
    rw [hr] at h
    cases h
    obtain ⟨hs, hok, hnew, rfl⟩ := register_eq_ok.1 hr
    exact .registered hs hok.named hnew

theorem effect_init (h : perform r .init = some (answer, r')) : Effect r .init answer r' := by
  simp only [perform] at h
  cases hi : r.init with
  | error err => rw [hi] at h; cases h; exact .refused rfl rfl rfl
  | ok result =>
    obtain ⟨list, r''⟩ := result
    rw [hi] at h
    cases h
    obtain ⟨hs, rfl, rfl⟩ := init_eq_ok.1 hi
    exact .bound hs

theorem outline_onParsed_error {m : CommandLine.Matches} {err : RegistryError}
    (h : r.onParsed m = (.error err, r')) : r'.state = r.state ∧ r'.outline = r.outline := by
  have hc := map_configureAll (f := fun e => (e.scraper, e.enabledDefault, e.enabled))
    (fun _ _ => rfl) m r.entries
  unfold onParsed at h
  split at h
  · cases h; exact ⟨rfl, rfl⟩
  · cases h; exact ⟨rfl, rfl⟩
  · cases h; exact ⟨rfl, rfl⟩
  · split at h
    · rename_i heq
      cases h
      rw [heq] at hc
      exact ⟨rfl, hc⟩
    · cases h

theorem state_onParsed_ok {m : CommandLine.Matches} {a : Applied} (h : r.onParsed m = (.ok a, r')) :
    r.state = .flagsPending ∧ r'.state = .ready := by
  unfold onParsed at h
  split at h
  · cases h
  · cases h
  · cases h
  · rename_i hs
    split at h
    · cases h
    · cases h; exact ⟨hs, rfl⟩

theorem effect_onParsed {m : CommandLine.Matches}
    (h : perform r (.onParsed m) = some (answer, r')) : Effect r (.onParsed m) answer r' := by
  have hkept := scrapers_eq_of_fixed (fixed_onParsed m r)
  simp only [perform] at h
  split at h
  · rename_i a r'' heq
    cases h
    obtain ⟨hs, hs'⟩ := state_onParsed_ok heq
    rw [heq] at hkept
    exact .applied hs hs' hkept
  · rename_i heq
    cases h
    obtain ⟨hs, he⟩ := outline_onParsed_error heq
    exact .refused rfl hs he

/-- A call that is answered has its effect. -/
theorem effect_of_perform (h : r.perform call = some (answer, r')) : Effect r call answer r' := by
  cases call with
  | register s enabledDefault => exact effect_register (Option.some.inj h)
  | init => exact effect_init h
  | onParsed m => exact effect_onParsed h
  | configure name args =>
    have h : r.changed (r.configure name args) = (answer, r') := Option.some.inj h
    cases hc : r.configure name args with
    | error err => rw [hc] at h; cases h; exact .refused rfl rfl rfl
    | ok r'' =>
      rw [hc] at h
      cases h
      exact .configured (state_configure hc) (scrapers_eq_of_fixed (fixed_configure hc))
  | setEnabled name enabled =>
    have h : r.changed (r.setEnabled name enabled) = (answer, r') := Option.some.inj h
    cases hc : r.setEnabled name enabled with
    | error err => rw [hc] at h; cases h; exact .refused rfl rfl rfl
    | ok r'' =>
      rw [hc] at h
      cases h
      exact .switched (state_setEnabled hc) (scrapers_eq_of_fixed (fixed_setEnabled hc))
  | teardown => cases h; exact .tornDown
  | all =>
    cases hs : r.state.isSettled with
    | false => simp [perform, Registry.all, hs] at h
    | true => simp [perform, Registry.all, hs] at h; obtain ⟨rfl, rfl⟩ := h; exact .all hs
  | enabled =>
    cases hs : r.state.isSettled with
    | false => simp [perform, Registry.enabled, Registry.all, hs] at h
    | true =>
      simp [perform, Registry.enabled, Registry.all, hs] at h
      obtain ⟨rfl, rfl⟩ := h
      exact .enabled hs
  | lookup name => cases h; exact .found
  | isEnabled name => cases h; exact .asked
  | isReady => cases h; exact .settled
  | describe => cases h; exact .described

/-- Who is not answered waits for scrapers of a registry that is not settled. -/
theorem perform_eq_none :
    r.perform call = none ↔ call.waits = true ∧ r.state.isSettled = false := by
  cases call with
  | init => cases hi : r.init <;> simp [perform, hi, Call.waits]
  | onParsed m =>
    cases hp : r.onParsed m with
    | mk result r' => cases result <;> simp [perform, hp, Call.waits]
  | all => simp [perform, Registry.all, Call.waits]
  | enabled => simp [perform, Registry.enabled, Registry.all, Call.waits]
  | register | configure | setEnabled | teardown | lookup | isEnabled | isReady | describe =>
    simp [perform, Call.waits]

theorem Effect.stage_le (h : Effect r call answer r') : r.state.stage ≤ r'.state.stage := by
  cases h with
  | bound hs => simp [hs, Lifecycle.stage]
  | applied hs hs' _ => simp [hs, hs', Lifecycle.stage]
  | tornDown => cases r.state <;> simp [Lifecycle.stage]
  | configured hs _ | switched hs _ | refused _ hs _ => exact Nat.le_of_eq (congrArg _ hs.symm)
  | registered | all | enabled | found | asked | settled | described => exact Nat.le_refl _

/-- Only before the flags are bound does a call add a scraper, and only a teardown takes any
away. -/
theorem Effect.scrapers_eq (h : Effect r call answer r') (hs : r.state ≠ .uninitialized)
    (hc : call ≠ .teardown) : r'.scrapers = r.scrapers := by
  cases h with
  | registered hs' => exact absurd hs' hs
  | bound => rfl
  | applied _ _ he | configured _ he | switched _ he => exact he
  | tornDown => exact absurd rfl hc
  | refused _ _ he => exact scrapers_eq_of_outline he
  | all | enabled | found | asked | settled | described => rfl

theorem Effect.wellFormed (h : Effect r call answer r') (hw : r.WellFormed fun s => IsName s.name) :
    r'.WellFormed fun s => IsName s.name := by
  cases h with
  | @registered s enabledDefault _ hn _ =>
    exact hw.insert (e := ⟨s, enabledDefault, enabledDefault, s.argSet⟩) hn
  | bound => exact hw.of_scrapers rfl
  | applied _ _ he | configured _ he | switched _ he => exact hw.of_scrapers he
  | tornDown => exact .of_empty rfl
  | refused _ _ he => exact hw.of_scrapers (scrapers_eq_of_outline he)
  | all | enabled | found | asked | settled | described => exact hw

/-- Nothing comes into a registry that is torn down. -/
theorem Effect.emptied (h : Effect r call answer r') (hr : r.state = .tornDown → r.entries = []) :
    r'.state = .tornDown → r'.entries = [] := by
  intro hs
  have hempty : r'.state = r.state → r'.scrapers = r.scrapers → r'.entries = [] := by
    intro hsame he
    have : r'.scrapers = [] := by rw [he, scrapers, hr (hsame ▸ hs)]; rfl
    simpa [scrapers] using this
  cases h with
  | registered hu | bound hu => simp_all
  | applied _ hready _ => simp_all
  | configured hst he | switched hst he => exact hempty hst he
  | refused _ hst he => exact hempty hst (scrapers_eq_of_outline he)
  | tornDown => rfl
  | all | enabled | found | asked | settled | described => exact hr hs

/-- The scraper that a call has registered. -/
def registeredBy : Call → Answer → Option Scraper
  | .register s _, .done => some s
  | _, _ => none

theorem mem_scrapers_insert {e : RegistryEntry} {s : Scraper} (ha : Ascending r.entries)
    (hnew : has e.scraper.name r.entries = false) :
    s ∈ values (scrapers { r with entries := insert e.scraper.name e r.entries }) ↔
      s ∈ values r.scrapers ∨ e.scraper = s := by
  have hkeys : ∀ p ∈ r.entries, p.1 ≠ e.scraper.name := by
    simpa [has, find?_eq_none] using hnew
  have hmem : ∀ p, p ∈ insert e.scraper.name e r.entries ↔
      p = (e.scraper.name, e) ∨ p ∈ r.entries := by
    refine fun p => ⟨mem_insert, fun hp => ?_⟩
    rw [← find?_eq_some ha.insert, find?_insert ha]
    rcases hp with rfl | hp
    · simp
    · rw [if_neg (hkeys p hp)]
      exact (find?_eq_some ha).2 hp
  simp only [values, scrapers, List.map_map, List.mem_map, hmem, Function.comp_apply]
  constructor
  · rintro ⟨p, rfl | hp, rfl⟩
    · exact .inr rfl
    · exact .inl ⟨p, hp, rfl⟩
  · rintro (⟨p, hp, rfl⟩ | rfl)
    · exact ⟨p, .inr hp, rfl⟩
    · exact ⟨_, .inl rfl, rfl⟩

/-- Until the teardown the scrapers are those that calls have registered. -/
theorem Effect.mem_scrapers (h : Effect r call answer r') (hw : r.WellFormed fun s => IsName s.name)
    (hs : r'.state ≠ .tornDown) : r.state ≠ .tornDown ∧
      ∀ s, s ∈ values r'.scrapers ↔ s ∈ values r.scrapers ∨ registeredBy call answer = some s := by
  have hsame : r'.scrapers = r.scrapers → registeredBy call answer = none →
      ∀ s, s ∈ values r'.scrapers ↔ s ∈ values r.scrapers ∨ registeredBy call answer = some s := by
    intro he hnone s
    simp [he, hnone]
  cases h with
  | @registered s enabledDefault hu _ hnew =>
    refine ⟨by simp [hu], fun s' => ?_⟩
    rw [mem_scrapers_insert (e := ⟨s, enabledDefault, enabledDefault, s.argSet⟩)
      hw.entries_ascending hnew]
    simp [registeredBy]
  | bound hu => exact ⟨by simp [hu], hsame rfl rfl⟩
  | applied hp _ he => exact ⟨by simp [hp], hsame he rfl⟩
  | configured hst he | switched hst he => exact ⟨hst ▸ hs, hsame he rfl⟩
  | tornDown => exact absurd rfl hs
  | refused _ hst he =>
    exact ⟨hst ▸ hs, hsame (scrapers_eq_of_outline he) (by cases call <;> rfl)⟩
  | all | enabled | found | asked | settled | described => exact ⟨hs, hsame rfl rfl⟩

/-- Has a command line been applied? -/
def Answer.isApplied : Answer → Bool
  | .applied _ => true
  | _ => false

theorem Effect.applied_states (h : Effect r call answer r') (ha : answer.isApplied = true) :
    r.state = .flagsPending ∧ r'.state = .ready := by
  cases h with
  | applied hs hs' _ => exact ⟨hs, hs'⟩
  | registered | bound | configured | switched | tornDown | refused | all | enabled | found | asked
  | settled | described => cases ha

/-! ## Histories -/

/-- What was called in turn, from a registry that nobody has used, and the registry it has come
to. -/
inductive History : List Event → Registry → Prop
  | nil : History [] .empty
  | call {log : List Event} {ev : Event} (h : History log ev.before)
    (hp : ev.before.perform ev.call = some (ev.answer, ev.after)) : History (log ++ [ev]) ev.after

variable {log past future : List Event} {ev : Event}

/-- A history up to one of its calls is a history. -/
theorem History.split (h : History (past ++ ev :: future) r) : History past ev.before ∧
    ev.before.perform ev.call = some (ev.answer, ev.after) := by
  generalize hl : past ++ ev :: future = log at h
  induction h generalizing future with
  | nil => simp at hl
  | @call log x h hp ih =>
    rcases List.eq_nil_or_concat future with rfl | ⟨rest, y, rfl⟩
    · obtain ⟨rfl, hx⟩ := List.append_inj' hl rfl
      cases hx
      exact ⟨h, hp⟩
    · have hl : (past ++ ev :: rest) ++ [y] = log ++ [x] := by simpa using hl
      exact ih (List.append_inj' hl rfl).1

/-- A history has come to what its last call has left. -/
theorem History.eq_last (h : History log r) : r = (log.getLast?.map (·.after)).getD .empty := by
  cases h with
  | nil => rfl
  | call => simp

/-- The scrapers that calls have registered. -/
def registered (log : List Event) : List Scraper :=
  log.filterMap fun ev => registeredBy ev.call ev.answer

/-- What holds of the registry that a history has come to. -/
structure Sound (log : List Event) (r : Registry) : Prop where
  wellFormed : r.WellFormed fun s => IsName s.name
  emptied : r.state = .tornDown → r.entries = []
  recorded : r.state ≠ .tornDown → ∀ s, s ∈ values r.scrapers ↔ s ∈ registered log
  passed : ∀ ev ∈ log, ev.after.state.stage ≤ r.state.stage
  forward : (log.map (·.after.state.stage)).Pairwise (· ≤ ·)
  once : log.countP (·.answer.isApplied) ≤ if r.state.stage < Lifecycle.stage .ready then 0 else 1

theorem Sound.once_call (h : Sound log ev.before)
    (he : Effect ev.before ev.call ev.answer ev.after) : (log ++ [ev]).countP (·.answer.isApplied) ≤
      if ev.after.state.stage < Lifecycle.stage .ready then 0 else 1 := by
  have honce := h.once
  have hle := he.stage_le
  rw [List.countP_append, List.countP_singleton]
  by_cases ha : ev.answer.isApplied = true
  · obtain ⟨hs, hs'⟩ := he.applied_states ha
    rw [hs, if_pos (by decide)] at honce
    rw [if_pos ha, hs', if_neg (by decide)]
    omega
  · rw [if_neg ha]
    split at honce <;> split <;> omega

theorem History.sound (h : History log r) : Sound log r := by
  induction h with
  | nil =>
    exact ⟨.of_empty rfl, fun _ => rfl, fun _ _ => Iff.rfl, by simp, by simp, by simp⟩
  | @call log ev _ hp ih =>
    have he := effect_of_perform hp
    refine ⟨he.wellFormed ih.wellFormed, he.emptied ih.emptied, fun hs s => ?_, fun x hx => ?_, ?_,
      ih.once_call he⟩
    · obtain ⟨hs, hmem⟩ := he.mem_scrapers ih.wellFormed hs
      rw [hmem, ih.recorded hs]
      simp [registered, List.filterMap_append]
    · rcases List.mem_append.1 hx with hx | hx
      · exact Nat.le_trans (ih.passed x hx) he.stage_le
      · obtain rfl := List.mem_singleton.1 hx
        exact Nat.le_refl _
    · simp only [List.map_append, List.pairwise_append, List.map_cons, List.map_nil, List.mem_map,
        List.mem_singleton]
      refine ⟨ih.forward, by simp, ?_⟩
      rintro _ ⟨x, hx, rfl⟩ _ rfl
      exact Nat.le_trans (ih.passed x hx) he.stage_le

theorem History.effect (h : History log r) (hev : ev ∈ log) :
    Effect ev.before ev.call ev.answer ev.after := by
  obtain ⟨past, future, rfl⟩ := List.append_of_mem hev
  exact effect_of_perform h.split.2

theorem History.sound_after (h : History log r) (hev : ev ∈ log) :
    ev.after.WellFormed (fun s => IsName s.name) ∧
      (ev.after.state = .tornDown → ev.after.entries = []) := by
  obtain ⟨past, future, rfl⟩ := List.append_of_mem hev
  obtain ⟨hpast, hp⟩ := h.split
  have hs := (hpast.call hp).sound
  exact ⟨hs.wellFormed, hs.emptied⟩

/-- Once the flags are bound the scrapers stay, until a teardown. -/
theorem History.scrapers_since (h : History (past ++ ev :: future) r)
    {flags : List CommandLine.Flag} (hb : ev.answer = .flags flags)
    (ht : ∀ x ∈ future, x.call ≠ .teardown) :
    r.state ≠ .uninitialized ∧ r.scrapers = ev.after.scrapers := by
  generalize hl : past ++ ev :: future = log at h
  induction h generalizing future with
  | nil => simp at hl
  | @call log x h hp ih =>
    have he := effect_of_perform hp
    rcases List.eq_nil_or_concat future with rfl | ⟨rest, y, rfl⟩
    · obtain ⟨rfl, hx⟩ := List.append_inj' hl rfl
      cases hx
      rw [hb] at he
      generalize ev.after = r', ev.call = call at he
      cases he with
      | bound => exact ⟨by simp, rfl⟩
    · have hl : (past ++ ev :: rest) ++ [y] = log ++ [x] := by simpa using hl
      obtain ⟨hrest, hy⟩ := List.append_inj' hl rfl
      cases hy
      obtain ⟨hs, hsame⟩ := ih (fun z hz => ht z (by simp [hz])) hrest
      have hstill : x.after.scrapers = x.before.scrapers := he.scrapers_eq hs (ht x (by simp))
      refine ⟨fun hu => hs ?_, hstill.trans hsame⟩
      have hle := he.stage_le
      rw [hu] at hle
      revert hle
      cases x.before.state <;> simp [Lifecycle.stage]

/-! ## What readers are given -/

/-- A reader is given those of the registered scrapers that are wanted, in the order of their names,
and nothing after a teardown. -/
def Event.Delivers (ev : Event) (past : List Event) (wanted : Scraper → Prop) : Prop :=
  ∃ list, ev.answer = .scrapers list ∧ InOrder list ∧
    (ev.before.state = .ready ∧
        (∀ s, s ∈ list.map (·.scraper) ↔ s ∈ registered past ∧ wanted s) ∨
      ev.before.state = .tornDown ∧ list = [])

theorem isEnabled_iff (hw : r.WellFormed fun s => IsName s.name) {e : RegistryEntry}
    (h : e ∈ values r.entries) : r.isEnabled e.scraper.name = e.enabled := by
  simp [isEnabled, lookup, hw.find?_entry h]

theorem delivers_of_sound (keep : RegistryEntry → Bool) {wanted : Scraper → Prop}
    (h : Sound past ev.before) (hs : ev.before.state.isSettled = true)
    (ha : ev.answer = .scrapers ((values ev.before.entries).filter keep))
    (hk : ∀ e ∈ values ev.before.entries, keep e = true ↔ wanted e.scraper) :
    ev.Delivers past wanted := by
  refine ⟨_, ha, h.wellFormed.entries_inOrder.sublist List.filter_sublist, ?_⟩
  cases hst : ev.before.state with
  | uninitialized | flagsPending => simp [hst, Lifecycle.isSettled] at hs
  | tornDown => exact .inr ⟨rfl, by simp [h.emptied hst, values]⟩
  | ready =>
    refine .inl ⟨rfl, fun s => ?_⟩
    have hrec := h.recorded (by simp [hst]) s
    have hvalues : values ev.before.scrapers = (values ev.before.entries).map (·.scraper) := by
      simp [values, scrapers, Function.comp_def]
    rw [hvalues] at hrec
    rw [← hrec]
    simp only [List.mem_map, List.mem_filter]
    constructor
    · rintro ⟨e, ⟨he, hkeep⟩, rfl⟩
      exact ⟨⟨e, he, rfl⟩, (hk e he).1 hkeep⟩
    · rintro ⟨⟨e, he, rfl⟩, hwanted⟩
      exact ⟨e, ⟨he, (hk e he).2 hwanted⟩, rfl⟩

theorem delivers_all (h : History (past ++ ev :: future) r) (hc : ev.call = .all) :
    ev.Delivers past fun _ => True := by
  obtain ⟨hpast, hp⟩ := h.split
  have he := effect_of_perform hp
  rw [hc] at he
  generalize hr : ev.after = r', ha : ev.answer = answer at he
  cases he with
  | all hs =>
    refine delivers_of_sound (fun _ => true) hpast.sound hs ?_ (by simp)
    rw [ha, List.filter_eq_self.2 (by simp)]
  | refused hw => cases hw

theorem delivers_enabled (h : History (past ++ ev :: future) r) (hc : ev.call = .enabled) :
    ev.Delivers past fun s => ev.before.isEnabled s.name = true := by
  obtain ⟨hpast, hp⟩ := h.split
  have he := effect_of_perform hp
  rw [hc] at he
  generalize hr : ev.after = r', ha : ev.answer = answer at he
  cases he with
  | enabled hs =>
    refine delivers_of_sound (·.enabled) hpast.sound hs ha fun e hmem => ?_
    rw [isEnabled_iff hpast.sound.wellFormed hmem]
  | refused hw => cases hw

/-! ## Threads -/

/-- What may be relied on, whoever calls. -/
structure Orderly (log : List Event) : Prop where
  /-- An answer is what the registry says, as the calls before have left it. -/
  performed : ∀ past ev future, log = past ++ ev :: future →
    ev.before = (past.getLast?.map (·.after)).getD .empty ∧
      ev.before.perform ev.call = some (ev.answer, ev.after)
  /-- The lifecycle moves forward only. -/
  forward : (log.map (·.after.state.stage)).Pairwise (· ≤ ·)
  named : ∀ ev ∈ log, ∀ p ∈ ev.after.entries, IsName p.1 ∧ p.2.scraper.name = p.1
  found : ∀ ev ∈ log, ∀ name e, ev.after.lookup name = some e → e.scraper.name = name
  /-- From the binding of the flags to a teardown no scraper comes or goes. -/
  kept : ∀ past ev between future, log = past ++ ev :: (between ++ future) →
    (∃ flags, ev.answer = .flags flags) → (∀ x ∈ between, x.call ≠ .teardown) →
      ∀ x ∈ between, x.after.scrapers = ev.after.scrapers
  /-- What is refused leaves all but arguments as it was. -/
  refused : ∀ ev ∈ log, ∀ err, ev.answer = .refused err →
    ev.after.state = ev.before.state ∧ ev.after.outline = ev.before.outline
  emptied : ∀ ev ∈ log, ev.after.state = .tornDown → ev.after.entries = []
  once : log.countP (·.answer.isApplied) ≤ 1
  all : ∀ past ev future, log = past ++ ev :: future → ev.call = .all →
    ev.Delivers past fun _ => True
  enabled : ∀ past ev future, log = past ++ ev :: future → ev.call = .enabled →
    ev.Delivers past fun s => ev.before.isEnabled s.name = true

theorem History.orderly (h : History log r) : Orderly log where
  performed _ _ _ hl := ⟨(hl ▸ h).split.1.eq_last, (hl ▸ h).split.2⟩
  forward := h.sound.forward
  named ev hev p hp := by
    have hw := (h.sound_after hev).1
    have hmem : (p.1, p.2.scraper) ∈ ev.after.scrapers := List.mem_map_of_mem hp
    have hname : p.2.scraper.name = p.1 := hw.named _ hmem
    exact ⟨hname ▸ hw.allowed _ hmem, hname⟩
  found ev hev name e he := (h.sound_after hev).1.find?_name he
  kept past ev between future hl hb ht x hx := by
    obtain ⟨flags, hb⟩ := hb
    obtain ⟨before, after, rfl⟩ := List.append_of_mem hx
    have hl : log = (past ++ ev :: before) ++ x :: (after ++ future) := by simpa using hl
    obtain ⟨hpast, hp⟩ := (hl ▸ h).split
    have hcall : History (past ++ ev :: (before ++ [x])) x.after := by simpa using hpast.call hp
    refine (hcall.scrapers_since hb fun y hy => ht y ?_).2
    simp only [List.mem_append, List.mem_cons, List.not_mem_nil, or_false] at hy ⊢
    exact hy.imp id .inl
  refused ev hev err herr := by
    have he := h.effect hev
    rw [herr] at he
    generalize ev.after = r', ev.call = call at he
    cases he with
    | refused _ hs ho => exact ⟨hs, ho⟩
  emptied ev hev := (h.sound_after hev).2
  once := Nat.le_trans h.sound.once (by split <;> omega)
  all _ _ _ hl hc := delivers_all (hl ▸ h) hc
  enabled _ _ _ hl hc := delivers_enabled (hl ▸ h) hc

end Registry

namespace Callers

open Registry (Event History)

theorem history_run : ∀ (turns : List Nat) (c : Callers) {past : List Event},
    History past c.registry → History (past ++ (c.run turns).1) (c.run turns).2.registry
  | [], c, past, h => by simpa [run] using h
  | i :: turns, c, past, h => by
    unfold run
    cases ht : c.turn i with
    | none => exact history_run turns c h
    | some step =>
      obtain ⟨ev, c'⟩ := step
      unfold turn at ht
      split at ht
      · obtain ⟨⟨answer, r⟩, hp, hstep⟩ := Option.map_eq_some_iff.1 ht
        cases hstep
        rename_i call rest _
        have hcall := @History.call past ⟨i, call, answer, c.registry, r⟩ h hp
        simpa using history_run turns ⟨r, c.threads.set i rest⟩ hcall
      · cases ht

/-- A thread waits with a call that reads scrapers while the registry is not settled, and with no
other. -/
theorem turn_eq_none {c : Callers} {i : Nat} {call : Registry.Call} {rest : List Registry.Call}
    (h : c.threads[i]? = some (call :: rest)) :
    c.turn i = none ↔ call.waits = true ∧ c.registry.state.isSettled = false := by
  simp only [turn, h, Option.map_eq_none_iff, Registry.perform_eq_none]

/-- **Order for all callers.** Whatever threads call, and in whatever order they get their turns,
the calls that were answered are orderly. A thread waits only to read scrapers, and only until the
registry is ready or torn down. -/
theorem run_orderly (threads : List (List Registry.Call)) (turns : List Nat) :
    Registry.Orderly ((new threads).run turns).1 ∧
      ∀ i call rest, ((new threads).run turns).2.threads[i]? = some (call :: rest) →
        (((new threads).run turns).2.turn i = none ↔
          call.waits = true ∧ ((new threads).run turns).2.registry.state.isSettled = false) := by
  have h := history_run turns (new threads) .nil
  rw [List.nil_append] at h
  exact ⟨h.orderly, fun i call rest hi => turn_eq_none hi⟩

end Callers
end MysqlMetrics
