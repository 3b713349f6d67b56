import MysqlMetrics.Collector.GroupMembers
import MysqlMetrics.Collector.ReplicaStatus
/-!
# Kept descriptors in common

A collector that keeps descriptors is one and the same for all scrapes, which go on side by side. A
call for its samples looks once for each descriptor that it needs, and only the look is undisturbed:
between two looks of a call, others may look for descriptors of their own and have them kept. The
first sample that cannot be made ends its call.

One call alone goes the way of `samples`.
-/
namespace MysqlMetrics.Collector

/-- The collectors that keep descriptors. -/
inductive Keeper where
  | replicaStatus
  | groupMembers
deriving DecidableEq, Repr

/-- What a call does with one descriptor. -/
inductive Look where
  /-- A sample of a column. -/
  | column (column : String) (value : Float) (labels : List String)
  /-- A sample of each row, labelled by its columns. -/
  | members (labels : List String) (rows : List Row)

namespace Look

/-- The descriptor that is found, and what is kept then. -/
def desc (cache : DescCache) : Look → Desc × DescCache
  | column c _ _ => ReplicaStatus.descFor cache c
  | members labels _ => GroupMembers.desc cache labels

def samples (d : Desc) : Look → Except MetricError (List Sample)
  | column _ x labels => (Sample.scalar d x labels).map fun s => [s]
  | members _ rows => rows.mapM fun row => Sample.scalar d one (GroupMembers.labelValues row)

end Look

namespace Keeper

/-- The samples of a call that nobody disturbs, and what is kept after it. -/
def samples : Keeper → DescCache → List Row → Except MetricError (List Sample) × DescCache
  | replicaStatus => ReplicaStatus.samples
  | groupMembers => GroupMembers.samples

/-- The looks of one row, a look for each column with a number. -/
def rowLooks (row : Row) : List Look :=
  (ReplicaStatus.measured row).map fun (c, x) => .column c x (ReplicaStatus.labelValues row)

/-- What a call looks for, in turn. -/
def looks : Keeper → List Row → List Look
  | replicaStatus, rows => rows.flatMap rowLooks
  | groupMembers, [] => []
  | groupMembers, first :: rows =>
    [.members (first.columns.map Text.asciiLower) (first :: rows)]

end Keeper

/-- A call for the samples of some rows. -/
structure Gathering where
  rows : List Row
  /-- The looks that are still ahead. -/
  ahead : List Look
  made : List Sample := []
  failure : Option MetricError := none

namespace Gathering

def new (k : Keeper) (rows : List Row) : Gathering := ⟨rows, k.looks rows, [], none⟩

/-- What the call returns when nothing is ahead of it. -/
def result (g : Gathering) : Except MetricError (List Sample) :=
  match g.failure with
  | none => .ok g.made
  | some e => .error e

/-- The next look, if there is one ahead, and what is kept then. -/
def turn (cache : DescCache) (g : Gathering) : Option (Gathering × DescCache) :=
  match g.ahead with
  | [] => none
  | look :: ahead =>
    let (d, cache) := look.desc cache
    match look.samples d with
    | .ok ss => some ({ g with ahead := ahead, made := g.made ++ ss }, cache)
    | .error e => some ({ g with ahead := [], failure := some e }, cache)

end Gathering

/-- A collector with what it keeps and the calls there have been, over or not. -/
structure InCommon where
  cache : DescCache := []
  calls : List Gathering := []

namespace InCommon

def call (k : Keeper) (s : InCommon) (rows : List Row) : InCommon :=
  { s with calls := s.calls ++ [.new k rows] }

/-- The turn of a call. -/
def turn (s : InCommon) (i : Nat) : Option InCommon :=
  s.calls[i]?.bind fun g => (g.turn s.cache).map fun (g, cache) => ⟨cache, s.calls.set i g⟩

/-- What calls at any time and turns in any order lead to. -/
inductive Reaches (k : Keeper) : InCommon → Prop
  | new : Reaches k {}
  | call {s : InCommon} (rows : List Row) (h : Reaches k s) : Reaches k (s.call k rows)
  | turn {s s' : InCommon} (i : Nat) (h : Reaches k s) (hs : s.turn i = some s') : Reaches k s'

end InCommon
end MysqlMetrics.Collector
