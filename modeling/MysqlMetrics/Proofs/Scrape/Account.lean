import MysqlMetrics.Proofs.Lists
import MysqlMetrics.Proofs.Scrape.Script
import MysqlMetrics.Scrape.Schedule
/-!
# The account of a scrape

The log of a scrape holds what its workers put into the sink, in that order, each sample with the
number of its worker. `Account` says what a log has to do with a machine: the reader has taken the
first part of it and the rest is in the queue, and what stands in it of one worker is what the
worker's script has come to (`Stage`). Every move keeps the account, whoever makes it, so it holds
at the end, where every worker has finished and everything was read (`account_of_settled`).

Time is part of it. A worker that runs has slept exactly until now, because time stands still while
anybody can move, and nobody is left at the deadline who could not.
-/
namespace MysqlMetrics

open Script

/-! ## A worker and its script -/

/-- Where a worker stands in its script, and what it has sent by then. -/
inductive Stage (start deadline now : Nat) (name : String) (script : Script) :
    Phase → List Sample → Prop
  | running {pre acts : List Act} (ha : script.acts = pre ++ acts) (ht : now = start + slept pre) :
    Stage start deadline now name script (.running acts) (emitted pre)
  | asleep {pre acts : List Act} {millis : Nat} (ha : script.acts = pre ++ .sleep millis :: acts)
    (hs : start + slept pre ≤ now) (hw : now ≤ start + slept pre + millis) :
    Stage start deadline now name script (.asleep (start + slept pre + millis) acts) (emitted pre)
  | reporting {o : Outcome} {out told left : List Sample} {elapsed : Nat}
    (he : Ended (deadline - start) script out o elapsed) (ho : o ≠ .panicked)
    (hr : told ++ left = Meta.report name elapsed o.isOk) :
    Stage start deadline now name script (.reporting o left) (out ++ told)
  | finished {o : Outcome} {out told : List Sample} {elapsed : Nat}
    (he : Ended (deadline - start) script out o elapsed)
    (hr : told = if o = .panicked then [] else Meta.report name elapsed o.isOk) :
    Stage start deadline now name script (.finished o) (out ++ told)

section Stage

variable {start deadline now : Nat} {script : Script} {sent : List Sample} {w : Worker} {k : Sink}
  {moved : Moved}

/-- At its end, a script has said everything and has slept until now. -/
theorem Stage.at_end {name : String} (h : Stage start deadline now name script (.running []) sent) :
    sent = emitted script.acts ∧ slept script.acts = now - start := by
  cases h with
  | @running pre _ ha ht =>
    rw [List.append_nil] at ha
    rw [ha]
    exact ⟨rfl, by omega⟩

/-- A worker that has ended begins its report. -/
theorem Stage.report {out : List Sample} {o : Outcome} {elapsed : Nat}
    (he : Ended (deadline - start) script out o elapsed) (ho : o ≠ .panicked)
    (ht : elapsed = now - start) :
    Stage start deadline now w.name script (w.report (now - start) o k).worker.phase out := by
  subst ht
  have : Stage start deadline now w.name script
      (.reporting o (Meta.report w.name (now - start) o.isOk)) (out ++ []) := .reporting he ho rfl
  rwa [List.append_nil] at this

/-- A turn adds to the sink what it adds to the sent. -/
theorem Stage.turn (h : Stage start deadline now w.name script w.phase sent)
    (he : w.ending = script.ending) (hs : start ≤ now) (hd : now ≤ deadline)
    (ho : k.isClosed = false) (ht : w.Turn start now deadline k moved) :
    ∃ new, moved.sink = { k with queue := k.queue ++ new } ∧ moved.worker.ending = w.ending ∧
      Stage start deadline now w.name script moved.worker.phase (sent ++ new) := by
  have same : k = { k with queue := k.queue ++ [] } := by simp
  cases ht with
  | complete hp hw =>
    rw [hp] at h
    obtain ⟨rfl, hl⟩ := h.at_end
    refine ⟨[], same, rfl, ?_⟩
    rw [List.append_nil]
    exact Stage.report (.ok (he ▸ hw) (by omega)) (by simp) hl
  | fail hp hw =>
    rw [hp] at h
    obtain ⟨rfl, hl⟩ := h.at_end
    refine ⟨[], same, rfl, ?_⟩
    rw [List.append_nil]
    exact Stage.report (.failed (he ▸ hw) (by omega)) (by simp) hl
  | panic hp hw =>
    rw [hp] at h
    obtain ⟨rfl, hl⟩ := h.at_end
    refine ⟨[], same, rfl, ?_⟩
    exact .finished (.panicked (he ▸ hw) (by omega)) (by simp)
  | @emit s acts hp hk =>
    rw [hp] at h
    cases h with
    | @running pre _ ha ht =>
      refine ⟨[s], rfl, rfl, ?_⟩
      have hpre : emitted pre ++ [s] = emitted (pre ++ [.emit s]) := by simp [emitted]
      rw [hpre]
      exact .running (by simp [ha]) (by simp [slept, ht])
  | refuse hp hk => simp [ho] at hk
  | crowdedOut hp hd' =>
    rw [hp] at h
    cases h with
    | @running pre _ ha ht =>
      refine ⟨[], same, rfl, ?_⟩
      rw [List.append_nil]
      exact Stage.report (.crowdedOut ha (by omega)) (by simp) (by omega)
  | @sleep millis acts hp =>
    rw [hp] at h
    cases h with
    | @running pre _ ha ht =>
      refine ⟨[], same, rfl, ?_⟩
      rw [List.append_nil]
      dsimp only
      rw [show now + millis = start + slept pre + millis by omega]
      exact .asleep ha (by omega) (by omega)
  | @wake moment acts hp hw =>
    rw [hp] at h
    cases h with
    | @asleep pre _ millis ha hs hw' =>
      refine ⟨[], same, rfl, ?_⟩
      have hpre : emitted pre ++ [] = emitted (pre ++ [.sleep millis]) := by simp [emitted]
      rw [hpre]
      exact .running (by simp [ha]) (by simp [slept]; omega)
  | expire hp hw hd' =>
    rw [hp] at h
    cases h with
    | @asleep pre _ millis ha hs hw' =>
      refine ⟨[], same, rfl, ?_⟩
      rw [List.append_nil]
      exact Stage.report (.late ha (by omega) (by omega)) (by simp) (by omega)
  | @deliver o s rest hp hk =>
    rw [hp] at h
    cases h with
    | @reporting _ out told _ elapsed he' ho' hr =>
      refine ⟨[s], rfl, rfl, ?_⟩
      rw [List.append_assoc]
      exact .reporting he' ho' (by simpa using hr)
  | discard hp hk => simp [ho] at hk
  | @finish o hp =>
    rw [hp] at h
    cases h with
    | @reporting _ out told _ elapsed he' ho' hr =>
      refine ⟨[], same, rfl, ?_⟩
      rw [List.append_nil]
      exact .finished he' (by simpa [ho'] using hr)

/-- Time passes over a worker that sleeps for longer, or has ended. -/
theorem Stage.wait {name : String} {phase : Phase} {t : Nat}
    (h : Stage start deadline now name script phase sent) (ht : now ≤ t)
    (hw : ∀ wake acts, phase = .asleep wake acts → t ≤ wake) (hr : ∀ acts, phase ≠ .running acts) :
    Stage start deadline t name script phase sent := by
  cases h with
  | running => exact absurd rfl (hr _)
  | asleep ha hs hw' => exact .asleep ha (by omega) (hw _ _ rfl)
  | reporting he ho hr' => exact .reporting he ho hr'
  | finished he hr' => exact .finished he hr'

end Stage

/-! ## The log -/

/-- What a worker put into the sink. -/
def sentBy (i : Nat) (log : List (Nat × Sample)) : List Sample :=
  (log.filter fun p => p.1 = i).map (·.2)

theorem sentBy_append (i : Nat) (log new : List (Nat × Sample)) :
    sentBy i (log ++ new) = sentBy i log ++ sentBy i new := by simp [sentBy]

theorem sentBy_own (i : Nat) (ss : List Sample) : sentBy i (ss.map fun s => (i, s)) = ss := by
  simp [sentBy, List.filter_map, Function.comp_def]

theorem sentBy_other {i j : Nat} (h : i ≠ j) (ss : List Sample) :
    sentBy j (ss.map fun s => (i, s)) = [] := by
  simp [sentBy, List.filter_map, Function.comp_def, h]

theorem mem_sentBy {i : Nat} {s : Sample} {log : List (Nat × Sample)} :
    s ∈ sentBy i log ↔ (i, s) ∈ log := by
  simp [sentBy]

/-! ## The account -/

/-- What a log has to do with a machine that began with some scripts. -/
structure Account (start deadline : Nat) (scripts : List (String × Script)) (m : Machine)
    (log : List (Nat × Sample)) : Prop where
  began : m.start = start
  due : m.deadline = deadline
  early : start ≤ m.now
  timely : m.now ≤ deadline
  reader : m.sink.reader = .open
  room : 0 < m.sink.capacity
  length : m.workers.length = scripts.length
  numbers : ∀ p ∈ log, p.1 < scripts.length
  /-- The reader has taken a part; the rest is in the queue. -/
  order : ∃ taken, log.map (·.2) = taken ++ m.sink.queue ∧
    m.builder = FamilyBuilder.empty.pushAll (Meta.up true :: taken)
  stage : ∀ (i : Nat) (w : Worker) (name : String) (script : Script),
    m.workers[i]? = some w → scripts[i]? = some (name, script) →
      w.name = name ∧ w.ending = script.ending ∧
        Stage start deadline m.now name script w.phase (sentBy i log)

namespace Machine

variable {start deadline : Nat} {scripts : List (String × Script)} {m m' : Machine}
  {log : List (Nat × Sample)}

theorem account_new (h : start ≤ deadline) :
    Account start deadline scripts (Machine.new start deadline scripts) [] where
  began := rfl
  due := rfl
  early := Nat.le_refl _
  timely := h
  reader := rfl
  room := by simp [Machine.new, Sink.new, Sink.scrapeCapacity]
  length := by simp [Machine.new]
  numbers := by simp
  order := ⟨[], rfl, rfl⟩
  stage i w name script hw hs := by
    simp only [Machine.new, List.getElem?_map, hs, Option.map_some, Option.some.injEq] at hw
    subst hw
    have ha : script.acts = [] ++ script.acts := rfl
    exact ⟨rfl, rfl, .running ha rfl⟩

theorem account_work {i : Nat} (a : Account start deadline scripts m log) (h : m.work i = some m') :
    ∃ log, Account start deadline scripts m' log := by
  obtain ⟨w, moved, hw, ht, rfl⟩ := work_eq_some h
  have hi : i < m.workers.length := (List.getElem?_eq_some_iff.1 hw).1
  have hi' : i < scripts.length := a.length ▸ hi
  obtain ⟨⟨name, script⟩, hsi⟩ : ∃ p, scripts[i]? = some p := ⟨_, List.getElem?_eq_getElem hi'⟩
  obtain ⟨hname, hend, hstage⟩ := a.stage i w name script hw hsi
  have hopen : m.sink.isClosed = false := by simp [Sink.isClosed, a.reader]
  rw [a.began, a.due] at ht
  rw [← hname] at hstage
  obtain ⟨new, hsink, hending, hnew⟩ := hstage.turn hend a.early a.timely hopen ht
  refine ⟨log ++ new.map fun s => (i, s), ?_⟩
  exact {
    began := a.began
    due := a.due
    early := a.early
    timely := a.timely
    reader := by rw [hsink]; exact a.reader
    room := by rw [hsink]; exact a.room
    length := by simpa using a.length
    numbers := by
      intro p hp
      rcases List.mem_append.1 hp with hp | hp
      · exact a.numbers p hp
      · obtain ⟨s, _, rfl⟩ := List.mem_map.1 hp
        exact hi'
    order := by
      obtain ⟨taken, hl, hb⟩ := a.order
      refine ⟨taken, ?_, hb⟩
      simp [hsink, hl, Function.comp_def]
    stage := by
      intro j v name' script' hv hs
      rcases getElem?_set_cases hw hv with ⟨rfl, rfl⟩ | ⟨hne, hv⟩
      · rw [hsi, Option.some.injEq, Prod.mk.injEq] at hs
        obtain ⟨rfl, rfl⟩ := hs
        rw [sentBy_append, sentBy_own]
        rw [hname] at hnew
        exact ⟨ht.name_eq.trans hname, hending.trans hend, hnew⟩
      · rw [sentBy_append, sentBy_other hne.symm, List.append_nil]
        exact a.stage j v name' script' hv hs }

theorem account_drain (a : Account start deadline scripts m log) (h : m.drain = some m') :
    Account start deadline scripts m' log := by
  obtain ⟨-, s, rest, hq, rfl⟩ := drain_eq_some h
  obtain ⟨taken, hl, hb⟩ := a.order
  refine { a with order := ⟨taken ++ [s], ?_, ?_⟩ }
  · simp [hl, hq]
  · simp [hb, FamilyBuilder.pushAll]

theorem drain_isSome (a : Account start deadline scripts m log) (h : m.sink.queue ≠ []) :
    m.drain.isSome = true := by
  cases hq : m.sink.queue with
  | nil => exact absurd hq h
  | cons s rest => simp [drain, Sink.receive, a.reader, hq]

/-- Where no one can move, all have finished or sleep until after now, and nothing is unread. -/
theorem still_of_not_canMove (a : Account start deadline scripts m log) (h : m.canMove = false) :
    m.sink.queue = [] ∧ ∀ w ∈ m.workers, w.isFinished = true ∨
      ∃ wake acts, w.phase = .asleep wake acts ∧ m.now < wake ∧ m.now < deadline := by
  simp only [canMove, Bool.or_eq_false_iff] at h
  have hq : m.sink.queue = [] := by
    refine Classical.byContradiction fun hq => ?_
    simp [drain_isSome a hq] at h
  refine ⟨hq, fun w hw => ?_⟩
  obtain ⟨i, hi, hwi⟩ := List.mem_iff_getElem.1 hw
  have hstuck : w.step m.start m.now m.deadline m.sink = none := by
    have := List.any_eq_false.1 h.2 i (List.mem_range.2 hi)
    simpa [work, List.getElem?_eq_getElem hi, hwi] using this
  rcases Worker.stuck_of_step hstuck with hf | ⟨wake, acts, hp, hlt, hd⟩ | ⟨_, hfull⟩
  · exact .inl hf
  · exact .inr ⟨wake, acts, hp, hlt, a.due ▸ hd⟩
  · rw [hq] at hfull
    have := a.room
    simp only [List.length_nil] at hfull
    omega

theorem timers_of_finished (h : ∀ w ∈ m.workers, w.isFinished = true) : m.timers = [] := by
  have hall : m.workers.all Worker.isFinished = true := List.all_eq_true.2 h
  have hwakes : m.workers.filterMap Worker.wake? = [] := by
    refine List.filterMap_eq_nil_iff.2 fun w hw => ?_
    have := h w hw
    unfold Worker.isFinished at this
    unfold Worker.wake?
    split at this <;> simp_all
  simp [timers, hall, hwakes]

theorem account_wait (a : Account start deadline scripts m log) (h : m.wait = some m') :
    Account start deadline scripts m' log := by
  obtain ⟨hc, t, ht, rfl⟩ := wait_eq_some h
  obtain ⟨-, hstill⟩ := still_of_not_canMove a hc
  obtain ⟨hmem, hmin⟩ := List.min?_eq_some_iff.1 ht
  have hlt : m.now < t := by simpa using (List.mem_filter.1 hmem).2
  have hdeadline : t ≤ deadline := by
    -- someone sleeps, so the deadline is among the timers
    by_cases hall : ∀ w ∈ m.workers, w.isFinished = true
    · rw [timers_of_finished hall] at hmem
      cases hmem
    · simp only [Classical.not_forall, exists_prop] at hall
      obtain ⟨w, hw, hf⟩ := hall
      rcases hstill w hw with hf' | ⟨_, _, _, _, hd⟩
      · exact absurd hf' hf
      · refine hmin deadline (List.mem_filter.2 ⟨?_, by simpa using hd⟩)
        have : ¬ m.workers.all Worker.isFinished = true := fun h => hf (List.all_eq_true.1 h w hw)
        simp [this, a.due]
  refine { a with
    early := Nat.le_trans a.early (Nat.le_of_lt hlt)
    timely := hdeadline
    stage := fun i w name script hw hs => ?_ }
  obtain ⟨hname, hend, hstage⟩ := a.stage i w name script hw hs
  have hwm : w ∈ m.workers := List.mem_of_getElem? hw
  refine ⟨hname, hend, hstage.wait (Nat.le_of_lt hlt) (fun wake acts hp => ?_) fun acts hp => ?_⟩
  · refine hmin wake (List.mem_filter.2 ⟨?_, ?_⟩)
    · exact List.mem_append_right _ (List.mem_filterMap.2 ⟨w, hwm, by simp [Worker.wake?, hp]⟩)
    · rcases hstill w hwm with hf | ⟨wake', _, hp', hlt', _⟩
      · simp [Worker.isFinished, hp] at hf
      · rw [hp] at hp'
        cases hp'
        simpa using hlt'
  · rcases hstill w hwm with hf | ⟨_, _, hp', _, _⟩
    · simp [Worker.isFinished, hp] at hf
    · rw [hp] at hp'
      cases hp'

theorem account_step {choice : Choice} (a : Account start deadline scripts m log)
    (h : m.step choice = some m') : ∃ log, Account start deadline scripts m' log := by
  cases choice with
  | work i => exact account_work a h
  | drain => exact ⟨log, account_drain a h⟩
  | stop =>
    -- the reader never has to give up
    have hlate := (stop_eq_some h).1
    have := a.timely
    simp only [hardStop, graceMillis, a.due] at hlate
    omega
  | wait => exact ⟨log, account_wait a h⟩

theorem account_of_reaches (h : Reaches m m') (a : Account start deadline scripts m log) :
    ∃ log, Account start deadline scripts m' log := by
  induction h with
  | refl => exact ⟨log, a⟩
  | move choice _ hs ih =>
    obtain ⟨log, a⟩ := ih
    exact account_step a hs

/-- **The end of a scrape.** Everyone has finished by the deadline, and everything was read. -/
theorem account_of_settled (a : Account start deadline scripts m log) (h : m.Settled) :
    m.sink.queue = [] ∧ ∀ w ∈ m.workers, w.isFinished = true := by
  have hc : m.canMove = false := by
    simp only [canMove, Bool.or_eq_false_iff]
    refine ⟨⟨by rw [show m.drain = none from h .drain]; rfl,
      by rw [show m.stop = none from h .stop]; rfl⟩, List.any_eq_false.2 fun i _ => ?_⟩
    rw [show m.work i = none from h (.work i)]
    simp
  obtain ⟨hq, hstill⟩ := still_of_not_canMove a hc
  refine ⟨hq, fun w hw => (hstill w hw).resolve_right fun ⟨wake, acts, hp, hlt, _⟩ => ?_⟩
  -- a worker that sleeps is a timer, and time could move
  have hwait : m.wait = none := h .wait
  simp only [wait, hc, Bool.false_eq_true, if_false, Option.map_eq_none_iff,
    List.min?_eq_none_iff] at hwait
  have : wake ∈ m.timers := List.mem_filter.2 ⟨List.mem_append_right _
    (List.mem_filterMap.2 ⟨w, hw, by simp [Worker.wake?, hp]⟩), by simpa using hlt⟩
  rw [hwait] at this
  cases this

end Machine
end MysqlMetrics
