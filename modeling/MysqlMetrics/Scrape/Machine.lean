import MysqlMetrics.Metric.Family
import MysqlMetrics.Metric.Sink
import MysqlMetrics.Scrape.Meta
import MysqlMetrics.Scraper
/-!
# Workers of a scrape

Every scraper of a scrape runs as a worker of its own. The workers write into one sink, which the
scrape drains into a builder of families. Time is counted in milliseconds and moves only when
nobody can do anything: a worker sleeps until a moment or waits for room in the sink, and one that
still waits at the deadline is cut off. A worker ends with a report on itself, unless it panicked.
The reader waits for the last report, but gives up and closes the sink some time after the deadline.

Which worker moves next is a free choice (`Choice`, `Machine.step`); `Machine.run` is one way to
choose.
-/
namespace MysqlMetrics

/-- How the scrape of a worker came out. One that is cut off ran past the deadline. -/
inductive Outcome where
  | ok
  | failed
  | cutOff
  | panicked
deriving DecidableEq, Repr

def Outcome.isOk (o : Outcome) : Bool := o == .ok

/-- Where a worker stands. -/
inductive Phase where
  | running (acts : List Act)
  | asleep (wake : Nat) (acts : List Act)
  | reporting (outcome : Outcome) (samples : List Sample)
  | finished (outcome : Outcome)

structure Worker where
  name : String
  ending : Ending
  phase : Phase

/-- The state of a scrape that has its server. Moments are in milliseconds. -/
structure Machine where
  start : Nat
  now : Nat
  deadline : Nat
  workers : List Worker
  sink : Sink
  builder : FamilyBuilder
  /-- The scrapers that failed, in the order in which they did. -/
  failures : List String

/-- Who moves next: a worker, the reader of the sink, the reader when it gives up, or time. -/
inductive Choice where
  | work (i : Nat)
  | drain
  | stop
  | wait
deriving DecidableEq, Repr

/-- What a worker's move leaves: the worker, the sink, and whether it was found to have failed. -/
structure Moved where
  worker : Worker
  sink : Sink
  failed : Bool

namespace Worker

def ofScript (name : String) (s : Script) : Worker := ⟨name, s.ending, .running s.acts⟩

def isFinished (w : Worker) : Bool :=
  match w.phase with
  | .finished _ => true
  | _ => false

/-- The outcome of a worker; one that is not finished when the scrape ends is cut off. -/
def outcome (w : Worker) : Outcome :=
  match w.phase with
  | .finished o => o
  | _ => .cutOff

/-- The worker begins its report. -/
def report (w : Worker) (elapsed : Nat) (o : Outcome) (k : Sink) : Moved :=
  ⟨{ w with phase := .reporting o (Meta.report w.name elapsed o.isOk) }, k, !o.isOk⟩

/-- A worker that waits is cut off at the deadline. -/
def cutOff? (w : Worker) (start now deadline : Nat) (k : Sink) : Option Moved :=
  if deadline ≤ now then some (w.report (now - start) .cutOff k) else none

/-- One move of a worker, if it can make one. Only a worker that can do nothing else is cut off. -/
def step (w : Worker) (start now deadline : Nat) (k : Sink) : Option Moved :=
  match w.phase with
  | .running [] =>
    match w.ending with
    | .ok => some (w.report (now - start) .ok k)
    | .failed _ => some (w.report (now - start) .failed k)
    | .panicked _ => some ⟨{ w with phase := .finished .panicked }, k, false⟩
  | .running (.emit s :: acts) =>
    match k.send s with
    | (.done, k) => some ⟨{ w with phase := .running acts }, k, false⟩
    | (.refused _, k) => some (w.report (now - start) .failed k)
    | (.waits, _) => w.cutOff? start now deadline k
  | .running (.sleep millis :: acts) =>
    some ⟨{ w with phase := .asleep (now + millis) acts }, k, false⟩
  | .asleep wake acts =>
    if wake ≤ now then some ⟨{ w with phase := .running acts }, k, false⟩
    else w.cutOff? start now deadline k
  | .reporting o [] => some ⟨{ w with phase := .finished o }, k, false⟩
  | .reporting o (s :: rest) =>
    match k.send s with
    | (.done, k) => some ⟨{ w with phase := .reporting o rest }, k, false⟩
    | (.refused _, k) => some ⟨{ w with phase := .finished o }, k, false⟩
    | (.waits, _) => none
  | .finished _ => none

/-- The moment at which a sleeping worker wakes. -/
def wake? (w : Worker) : Option Nat :=
  match w.phase with
  | .asleep wake _ => some wake
  | _ => none

/-- More than the moves that a worker still needs, counted so that each takes one away at least,
also when it hands a sample to the sink. -/
def weight (w : Worker) : Nat :=
  match w.phase with
  | .running acts => 3 * acts.length + 8
  | .asleep _ acts => 3 * acts.length + 10
  | .reporting _ samples => 2 * samples.length + 1
  | .finished _ => 0

end Worker

namespace Machine

/-- A scrape that begins at `now`: the server is known to be up. -/
def new (now deadline : Nat) (scripts : List (String × Script)) : Machine where
  start := now
  now := now
  deadline := deadline
  workers := scripts.map fun (name, s) => .ofScript name s
  sink := .new Sink.scrapeCapacity
  builder := (FamilyBuilder.empty.push (Meta.up true)).2
  failures := []

/-- The worker of a number makes its move. -/
def work (m : Machine) (i : Nat) : Option Machine :=
  m.workers[i]?.bind fun w =>
    (w.step m.start m.now m.deadline m.sink).map fun moved =>
      { m with
        workers := m.workers.set i moved.worker
        sink := moved.sink
        failures := if moved.failed then m.failures ++ [w.name] else m.failures }

/-- The reader takes a sample from the sink. -/
def drain (m : Machine) : Option Machine :=
  match m.sink.receive with
  | (.sample s, k) => some { m with sink := k, builder := (m.builder.push s).2 }
  | _ => none

/-- How many milliseconds after the deadline the reports of workers that were cut off are waited
for. -/
def graceMillis : Nat := 250

/-- The moment at which the reader gives up. -/
def hardStop (m : Machine) : Nat := m.deadline + graceMillis

/-- The reader gives up: it has nothing to read and closes the sink. -/
def stop (m : Machine) : Option Machine :=
  if m.hardStop ≤ m.now && !m.sink.isClosed && m.sink.queue.isEmpty then
    some { m with sink := m.sink.close }
  else none

/-- The moments to come at which someone can move again. -/
def timers (m : Machine) : List Nat :=
  let limits := if m.workers.all Worker.isFinished then [] else [m.deadline, m.hardStop]
  (limits ++ m.workers.filterMap Worker.wake?).filter (m.now < ·)

/-- Can anyone move without time passing? -/
def canMove (m : Machine) : Bool :=
  m.drain.isSome || m.stop.isSome ||
    (List.range m.workers.length).any fun i => (m.work i).isSome

/-- Time moves to the next timer, once nobody can move. -/
def wait (m : Machine) : Option Machine :=
  if m.canMove then none else m.timers.min?.map fun t => { m with now := t }

def step (m : Machine) : Choice → Option Machine
  | .work i => m.work i
  | .drain => m.drain
  | .stop => m.stop
  | .wait => m.wait

/-- Every worker has finished and nothing is left in the sink. -/
def isDone (m : Machine) : Bool := m.workers.all Worker.isFinished && m.sink.queue.isEmpty

/-- The first worker that can move does, else the reader, else time. -/
def next (m : Machine) : Option Machine :=
  ((List.range m.workers.length).findSome? m.work).or (m.drain.or (m.stop.or m.wait))

/-- The weights of all workers together. -/
def weight (m : Machine) : Nat := m.workers.foldr (fun w n => w.weight + n) 0

/-- Twice the moves that are left, at least: each worker's, one to read each sample, and one to
wait for each timer. -/
def fuel (m : Machine) : Nat :=
  2 * (m.weight + m.sink.queue.length + m.workers.length + 2)

def runFor : Nat → Machine → Machine
  | 0, m => m
  | n + 1, m =>
    match m.next with
    | some m => runFor n m
    | none => m

/-- Runs until everyone is done. -/
def run (m : Machine) : Machine := runFor m.fuel m

/-- How each worker came out. -/
def outcomes (m : Machine) : List (String × Outcome) := m.workers.map fun w => (w.name, w.outcome)

/-- Did a worker end other than well? -/
def failed (m : Machine) : Bool := m.workers.any fun w => !w.outcome.isOk

end Machine
end MysqlMetrics
