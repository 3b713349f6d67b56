import MysqlMetrics.Scrape.Machine
/-!
# The turns of a worker

`Worker.step` says what a worker does next. Here each thing that it may do is a case of `Turn`, with
all that must hold for it: what a worker's move preserves is then proved case by case. The one fact
about termination is `Turn.weight_lt`: every turn takes weight away, also where the sink gains a
sample.
-/
namespace MysqlMetrics

namespace Worker

/-- What a worker may do in its turn, and what that leaves. -/
inductive Turn (w : Worker) (start now deadline : Nat) (k : Sink) : Moved → Prop
  | complete (hp : w.phase = .running []) (he : w.ending = .ok) :
    Turn w start now deadline k (w.report (now - start) .ok k)
  | fail {message : String} (hp : w.phase = .running []) (he : w.ending = .failed message) :
    Turn w start now deadline k (w.report (now - start) .failed k)
  | panic {message : String} (hp : w.phase = .running []) (he : w.ending = .panicked message) :
    Turn w start now deadline k ⟨{ w with phase := .finished .panicked }, k, false⟩
  | emit {s : Sample} {acts : List Act} (hp : w.phase = .running (.emit s :: acts))
    (hk : k.hasRoom) :
    Turn w start now deadline k ⟨{ w with phase := .running acts }, k.enqueue s, false⟩
  | refuse {s : Sample} {acts : List Act} (hp : w.phase = .running (.emit s :: acts))
    (hk : k.isClosed = true) : Turn w start now deadline k (w.report (now - start) .failed k)
  | crowdedOut {s : Sample} {acts : List Act} (hp : w.phase = .running (.emit s :: acts))
    (hd : deadline ≤ now) : Turn w start now deadline k (w.report (now - start) .cutOff k)
  | sleep {millis : Nat} {acts : List Act} (hp : w.phase = .running (.sleep millis :: acts)) :
    Turn w start now deadline k ⟨{ w with phase := .asleep (now + millis) acts }, k, false⟩
  | wake {wake : Nat} {acts : List Act} (hp : w.phase = .asleep wake acts) (hw : wake ≤ now) :
    Turn w start now deadline k ⟨{ w with phase := .running acts }, k, false⟩
  | expire {wake : Nat} {acts : List Act} (hp : w.phase = .asleep wake acts) (hw : now < wake)
    (hd : deadline ≤ now) : Turn w start now deadline k (w.report (now - start) .cutOff k)
  | deliver {o : Outcome} {s : Sample} {rest : List Sample}
    (hp : w.phase = .reporting o (s :: rest))
    (hk : k.hasRoom) :
    Turn w start now deadline k ⟨{ w with phase := .reporting o rest }, k.enqueue s, false⟩
  | discard {o : Outcome} {s : Sample} {rest : List Sample}
    (hp : w.phase = .reporting o (s :: rest))
    (hk : k.isClosed = true) :
    Turn w start now deadline k ⟨{ w with phase := .finished o }, k, false⟩
  | finish {o : Outcome} (hp : w.phase = .reporting o []) :
    Turn w start now deadline k ⟨{ w with phase := .finished o }, k, false⟩

variable {w : Worker} {start now deadline : Nat} {k : Sink} {moved : Moved}

theorem of_cutOff? (h : w.cutOff? start now deadline k = some moved) :
    deadline ≤ now ∧ moved = w.report (now - start) .cutOff k := by
  unfold cutOff? at h
  split at h
  · rename_i hd; cases h; exact ⟨hd, rfl⟩
  · cases h

theorem turn_of_step (h : w.step start now deadline k = some moved) :
    w.Turn start now deadline k moved := by
  unfold step at h
  split at h
  · rename_i hp
    split at h
    · rename_i he; cases h; exact .complete hp he
    · rename_i he; cases h; exact .fail hp he
    · rename_i he; cases h; exact .panic hp he
  · rename_i s acts hp
    split at h
    · rename_i hs
      obtain ⟨hk, rfl⟩ := Sink.send_done hs
      cases h; exact .emit hp hk
    · rename_i hs
      obtain ⟨hk, rfl⟩ := Sink.send_refused hs
      cases h; exact .refuse hp hk
    · obtain ⟨hd, rfl⟩ := of_cutOff? h
      exact .crowdedOut hp hd
  · rename_i hp; cases h; exact .sleep hp
  · rename_i hp
    split at h
    · rename_i hw; cases h; exact .wake hp hw
    · rename_i hw
      obtain ⟨hd, rfl⟩ := of_cutOff? h
      exact .expire hp (by omega) hd
  · rename_i hp; cases h; exact .finish hp
  · rename_i hp
    split at h
    · rename_i hs
      obtain ⟨hk, rfl⟩ := Sink.send_done hs
      cases h; exact .deliver hp hk
    · rename_i hs
      obtain ⟨hk, rfl⟩ := Sink.send_refused hs
      cases h; exact .discard hp hk
    · cases h
  · cases h

/-- A worker that cannot move is finished, asleep before the deadline, or waits for room. -/
theorem stuck_of_step (h : w.step start now deadline k = none) :
    w.isFinished = true ∨ (∃ wake acts, w.phase = .asleep wake acts ∧ now < wake ∧ now < deadline) ∨
      (k.isClosed = false ∧ k.capacity ≤ k.queue.length) := by
  unfold step at h
  split at h
  · split at h <;> cases h
  · split at h
    · cases h
    · cases h
    · rename_i hs; exact .inr (.inr (Sink.send_waits hs))
  · cases h
  · rename_i wake acts hp
    split at h
    · cases h
    · have hd : ¬ deadline ≤ now := by intro hd; simp [cutOff?, hd] at h
      exact .inr (.inl ⟨wake, acts, hp, by omega, by omega⟩)
  · cases h
  · split at h
    · cases h
    · cases h
    · rename_i hs; exact .inr (.inr (Sink.send_waits hs))
  · rename_i hp; exact .inl (by simp [isFinished, hp])

theorem Turn.weight_lt (h : w.Turn start now deadline k moved) :
    moved.worker.weight + moved.sink.queue.length < w.weight + k.queue.length := by
  cases h with
  | complete hp _ | fail hp _ | refuse hp _ | crowdedOut hp _ | expire hp _ _ =>
    simp [report, weight, hp, Meta.report]
  | panic hp _ | sleep hp | wake hp _ | discard hp _ | finish hp => simp [weight, hp] <;> omega
  | emit hp _ | deliver hp _ => simp [weight, hp, Sink.enqueue]; omega

theorem Turn.sink_eq (h : w.Turn start now deadline k moved) :
    moved.sink = k ∨ k.hasRoom ∧ ∃ s, moved.sink = k.enqueue s := by
  cases h with
  | emit _ hk | deliver _ hk => exact .inr ⟨hk, _, rfl⟩
  | _ => exact .inl rfl

theorem Turn.name_eq (h : w.Turn start now deadline k moved) : moved.worker.name = w.name := by
  cases h <;> rfl

end Worker
end MysqlMetrics
