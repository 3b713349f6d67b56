import MysqlMetrics.Registry
/-!
# Callers of a registry

Threads share a registry. Each call is made under its lock, so calls come one after another,
whatever the order in which the threads get their turns. A thread that reads scrapers before the
registry is settled waits, and its turns pass without effect.
-/
namespace MysqlMetrics

namespace Registry

/-- What can be asked of a registry. -/
inductive Call where
  | register (s : Scraper) (enabledDefault : Bool)
  | init
  | onParsed (m : CommandLine.Matches)
  | configure (name : String) (args : List Arg)
  | setEnabled (name : String) (enabled : Bool)
  | teardown
  | all
  | enabled
  | lookup (name : String)
  | isEnabled (name : String)
  | isReady
  | describe

inductive Answer where
  | done
  | refused (error : RegistryError)
  | flags (list : List CommandLine.Flag)
  | applied (a : Applied)
  | scrapers (list : List RegistryEntry)
  | found (entry : Option RegistryEntry)
  | truth (b : Bool)
  | described (list : List (String × Bool × Bool))

/-- A change is made, or refused and not made. -/
def changed (r : Registry) : Except RegistryError Registry → Answer × Registry
  | .ok r' => (.done, r')
  | .error e => (.refused e, r)

/-- The answer to a call and the registry after it; `none` while the caller has to wait. -/
def perform (r : Registry) : Call → Option (Answer × Registry)
  | .register s enabledDefault => some (r.changed (r.register s enabledDefault))
  | .init =>
    match r.init with
    | .ok (list, r') => some (.flags list, r')
    | .error e => some (.refused e, r)
  | .onParsed m =>
    match r.onParsed m with
    | (.ok a, r') => some (.applied a, r')
    | (.error e, r') => some (.refused e, r')
  | .configure name args => some (r.changed (r.configure name args))
  | .setEnabled name enabled => some (r.changed (r.setEnabled name enabled))
  | .teardown => some (.done, r.teardown)
  | .all => r.all.map fun list => (.scrapers list, r)
  | .enabled => r.enabled.map fun list => (.scrapers list, r)
  | .lookup name => some (.found (r.lookup name), r)
  | .isEnabled name => some (.truth (r.isEnabled name), r)
  | .isReady => some (.truth r.isReady, r)
  | .describe => some (.described r.describe, r)

/-- A call that was answered, with the registry before and after it. -/
structure Event where
  thread : Nat
  call : Call
  answer : Answer
  before : Registry
  after : Registry

end Registry

/-- Threads that share a registry, each with the calls that it has still to make. -/
structure Callers where
  registry : Registry
  threads : List (List Registry.Call)

namespace Callers

open Registry (Event)

/-- Threads before a registry that nobody has used. -/
def new (threads : List (List Registry.Call)) : Callers := ⟨.empty, threads⟩

/-- The turn of a thread: its next call, unless it has none or has to wait. -/
def turn (c : Callers) (i : Nat) : Option (Event × Callers) :=
  match c.threads[i]? with
  | some (call :: rest) =>
    (c.registry.perform call).map fun (answer, r) =>
      (⟨i, call, answer, c.registry, r⟩, ⟨r, c.threads.set i rest⟩)
  | _ => none

/-- What happens as the threads take turns, and what it leads to. -/
def run : Callers → List Nat → List Event × Callers
  | c, [] => ([], c)
  | c, i :: turns =>
    match c.turn i with
    | none => run c turns
    | some (event, c') =>
      let (log, last) := run c' turns
      (event :: log, last)

end Callers
end MysqlMetrics
