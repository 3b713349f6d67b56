import MysqlMetrics.Metric.Sink
/-!
# Calls on one sink

Calls that write come in any number and go on in turns. In its first turn a call makes its samples;
in each later one it attempts the next of them. Where there is no room it waits and attempts the
same sample again, or is given up: what it has sent stays sent. Meanwhile the reader reads, closes
the sink or goes away. The channel keeps what the sink took, with the number of the call it came
from, and what was read.

One call alone does with the sink what `Sink.write` does.
-/
namespace MysqlMetrics

/-- What is asked of a sink. -/
inductive Write where
  | send (s : Sample)
  | emit (desc : Desc) (value : Float) (labels : List String)
  | sendAll (samples : List Sample)

/-- The samples to be sent, if they can be made. -/
def Write.samples : Write → Except MetricError (List Sample)
  | .send s => .ok [s]
  | .emit desc value labels => (Sample.scalar desc value labels).map fun s => [s]
  | .sendAll samples => .ok samples

def Sink.write (k : Sink) : Write → Delivery × Sink
  | .send s => k.send s
  | .emit desc value labels => k.emit desc value labels
  | .sendAll samples => k.sendAll samples

/-- How far a call has come. -/
inductive Writing where
  | begun
  | sending (left : List Sample)
  | answered (result : Except MetricError Unit)
  | abandoned

/-- What is known of a call from outside. -/
def Writing.delivery : Writing → Delivery
  | .answered (.ok ()) => .done
  | .answered (.error e) => .refused e
  | _ => .waits

theorem Writing.delivery_eq_done {stage : Writing} :
    stage.delivery = .done ↔ stage = .answered (.ok ()) := by
  cases stage with
  | answered result => cases result <;> simp [delivery]
  | _ => simp [delivery]

theorem Writing.delivery_eq_refused {stage : Writing} {e : MetricError} :
    stage.delivery = .refused e ↔ stage = .answered (.error e) := by
  cases stage with
  | answered result => cases result <;> simp [delivery]
  | _ => simp [delivery]

structure WriteCall where
  write : Write
  /-- What the sink took from it. -/
  sent : List Sample := []
  stage : Writing := .begun

structure Channel where
  sink : Sink
  calls : List WriteCall := []
  /-- The samples that the sink took, in order, with the numbers of their calls. -/
  accepted : List (Nat × Sample) := []
  received : List Sample := []

namespace Channel

/-- What happens next. -/
inductive Move where
  | write (w : Write)
  | turn (call : Nat)
  | abandon (call : Nat)
  | receive
  | close
  | drop

def new (capacity : Nat) : Channel := { sink := Sink.new capacity }

/-- The channel after a call has come to a stage. -/
def settle (t : Channel) (i : Nat) (c : WriteCall) (stage : Writing) : Channel :=
  { t with calls := t.calls.set i { c with stage := stage } }

/-- The channel after a call has sent a sample, which leaves it some others. -/
def accept (t : Channel) (i : Nat) (c : WriteCall) (s : Sample) (left : List Sample) (k : Sink) :
    Channel where
  sink := k
  calls := t.calls.set i { c with sent := c.sent ++ [s], stage := .sending left }
  accepted := t.accepted ++ [(i, s)]
  received := t.received

def turn (t : Channel) (i : Nat) (c : WriteCall) : Channel :=
  match c.stage with
  | .begun =>
    match c.write.samples with
    | .ok samples => t.settle i c (.sending samples)
    | .error e => t.settle i c (.answered (.error e))
  | .sending [] => t.settle i c (.answered (.ok ()))
  | .sending (s :: left) =>
    match t.sink.send s with
    | (.done, k) => t.accept i c s left k
    | (.refused e, _) => t.settle i c (.answered (.error e))
    | (.waits, _) => t
  | .answered _ | .abandoned => t

/-- A call is given up, unless it has its answer. -/
def abandon (t : Channel) (i : Nat) (c : WriteCall) : Channel :=
  match c.stage with
  | .begun | .sending _ => t.settle i c .abandoned
  | .answered _ | .abandoned => t

def receive (t : Channel) : Channel :=
  match t.sink.receive with
  | (.sample s, k) => { t with sink := k, received := t.received ++ [s] }
  | (_, k) => { t with sink := k }

/-- A move of a call that is not there changes nothing. -/
def step (t : Channel) : Move → Channel
  | .write w => { t with calls := t.calls ++ [{ write := w }] }
  | .turn i => (t.calls[i]?).elim t (t.turn i)
  | .abandon i => (t.calls[i]?).elim t (t.abandon i)
  | .receive => t.receive
  | .close => { t with sink := t.sink.close }
  | .drop => { t with sink := t.sink.drop }

def run (t : Channel) (moves : List Move) : Channel := moves.foldl step t

@[simp]
theorem run_nil (t : Channel) : t.run [] = t := rfl

@[simp]
theorem run_cons (t : Channel) (m : Move) (moves : List Move) :
    t.run (m :: moves) = (t.step m).run moves := rfl

/-- What the sink took from a call. -/
def acceptedFrom (t : Channel) (i : Nat) : List Sample :=
  (t.accepted.filter (·.1 = i)).map (·.2)

end Channel
end MysqlMetrics
