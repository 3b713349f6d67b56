import MysqlMetrics.Metric.Sample
/-!
# The sink of a scrape

Scrapers write samples into a bounded queue that the scrape reads. A sample is written only while
there is room; once the reader has closed the queue nothing more is accepted, but what is in it can
still be read. A reader that is gone leaves nothing behind.
-/
namespace MysqlMetrics

/-- What the reading side of a sink is doing. -/
inductive ReadSide where
  | open
  | closed
  | gone
deriving DecidableEq, Repr

structure Sink where
  capacity : Nat
  queue : List Sample
  reader : ReadSide

/-- What became of a write. -/
inductive Delivery where
  | done
  /-- There is no room: the writer waits. -/
  | waits
  | refused (error : MetricError)
deriving DecidableEq, Repr

/-- What a read without waiting gives. -/
inductive Received where
  | sample (s : Sample)
  | empty
  | disconnected
  | dropped

namespace Sink

/-- The room of the sink of a scrape. -/
def scrapeCapacity : Nat := 1024

/-- An empty sink; it has room for one sample at least. -/
def new (capacity : Nat) : Sink := ⟨max capacity 1, [], .open⟩

def isClosed (k : Sink) : Bool := k.reader != .open

/-- Accepts a sample if there is room at this moment. A writer that waits has no place in the queue:
it attempts its sample again, and a later one may come before it. A queue that lets writers wait in
line has fewer orders, all of which are among these. -/
def send (k : Sink) (s : Sample) : Delivery × Sink :=
  if k.isClosed then (.refused .sinkClosed, k)
  else if k.queue.length < k.capacity then (.done, { k with queue := k.queue ++ [s] })
  else (.waits, k)

/-- Makes a scalar sample and sends it. -/
def emit (k : Sink) (desc : Desc) (value : Float) (labels : List String) : Delivery × Sink :=
  match Sample.scalar desc value labels with
  | .error e => (.refused e, k)
  | .ok s => k.send s

/-- Sends in order and stops at the first sample that is not accepted. -/
def sendAll (k : Sink) : List Sample → Delivery × Sink
  | [] => (.done, k)
  | s :: rest =>
    match k.send s with
    | (.done, k) => k.sendAll rest
    | stopped => stopped

def receive (k : Sink) : Received × Sink :=
  match k.reader, k.queue with
  | .gone, _ => (.dropped, k)
  | _, s :: rest => (.sample s, { k with queue := rest })
  | .open, [] => (.empty, k)
  | .closed, [] => (.disconnected, k)

/-- The reader refuses further samples but may still read. -/
def close (k : Sink) : Sink := { k with reader := if k.reader = .gone then .gone else .closed }

/-- The reader goes away with all that is unread. -/
def drop (k : Sink) : Sink := { k with queue := [], reader := .gone }

@[simp]
theorem isClosed_close (k : Sink) : k.close.isClosed = true := by
  by_cases h : k.reader = .gone <;> simp [isClosed, close, h]

@[simp]
theorem isClosed_drop (k : Sink) : k.drop.isClosed = true := rfl

/-! ### What sending does -/

/-- The sink takes a sample. -/
def hasRoom (k : Sink) : Prop := k.isClosed = false ∧ k.queue.length < k.capacity

/-- The sink with one more sample. -/
def enqueue (k : Sink) (s : Sample) : Sink := { k with queue := k.queue ++ [s] }

theorem send_done {k k' : Sink} {s : Sample} (h : k.send s = (.done, k')) :
    k.hasRoom ∧ k' = k.enqueue s := by
  unfold send at h
  split at h
  · cases h
  · rename_i hc
    split at h
    · rename_i hl
      cases h
      exact ⟨⟨by simpa using hc, hl⟩, rfl⟩
    · cases h

theorem send_of_hasRoom {k : Sink} {s : Sample} (h : k.hasRoom) :
    k.send s = (.done, k.enqueue s) := by
  have hopen : ¬ k.isClosed = true := by simp [h.1]
  rw [send, if_neg hopen, if_pos h.2, enqueue]

theorem send_refused {k k' : Sink} {s : Sample} {e : MetricError}
    (h : k.send s = (.refused e, k')) : k.isClosed = true ∧ k' = k := by
  unfold send at h
  split at h
  · rename_i hc
    cases h
    exact ⟨hc, rfl⟩
  · split at h <;> cases h

theorem send_waits {k k' : Sink} {s : Sample} (h : k.send s = (.waits, k')) :
    k.isClosed = false ∧ k.capacity ≤ k.queue.length := by
  unfold send at h
  split at h
  · cases h
  · rename_i hc
    split at h
    · cases h
    · rename_i hl
      exact ⟨by simpa using hc, by omega⟩

theorem send_stops {k k' : Sink} {s : Sample} {delivery : Delivery} (h : k.send s = (delivery, k'))
    (hd : delivery ≠ .done) : k' = k := by
  unfold send at h
  split at h
  · cases h; rfl
  · split at h
    · cases h; exact absurd rfl hd
    · cases h; rfl

theorem send_of_isClosed {k : Sink} {s : Sample} (h : k.isClosed = true) :
    k.send s = (.refused .sinkClosed, k) := by
  rw [send, if_pos h]

theorem sendAll_cons_of_done {k k' : Sink} {s : Sample} {rest : List Sample}
    (h : k.send s = (.done, k')) : k.sendAll (s :: rest) = k'.sendAll rest := by
  simp only [sendAll, h]

theorem sendAll_cons_of_stop {k k' : Sink} {s : Sample} {rest : List Sample} {delivery : Delivery}
    (h : k.send s = (delivery, k')) (hd : delivery ≠ .done) :
    k.sendAll (s :: rest) = (delivery, k) := by
  obtain rfl := send_stops h hd
  unfold sendAll
  rw [h]
  cases delivery with
  | done => exact absurd rfl hd
  | waits | refused e => rfl

end Sink
end MysqlMetrics
