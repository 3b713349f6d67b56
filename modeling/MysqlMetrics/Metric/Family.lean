import MysqlMetrics.Metric.Sample
import MysqlMetrics.SortedTable
/-!
# Families of metrics

A builder groups samples into families by name. The first sample of a name fixes the descriptor;
a later one is dropped if its descriptor does not agree, or if its label values were seen before.
What is left can be rendered: names are distinct, and so are the label values within a family.
-/
namespace MysqlMetrics

structure Metric where
  labels : List (String × String)
  reading : Reading

structure Family where
  name : String
  help : String
  kind : Kind
  metrics : List Metric

def Sample.toMetric (s : Sample) : Metric := ⟨s.labelPairs, s.reading⟩

/-- The samples accepted under one name, by their label values. -/
structure FamilyEntry where
  desc : Desc
  samples : SortedTable (List String) Sample

structure FamilyBuilder where
  families : SortedTable String FamilyEntry
  dropped : Nat

namespace FamilyBuilder

def empty : FamilyBuilder := ⟨[], 0⟩

/-- The entry that a sample goes to: the one of its name, or a new one under its descriptor. -/
def entryFor (b : FamilyBuilder) (s : Sample) : FamilyEntry :=
  (SortedTable.find? s.desc.name b.families).getD ⟨s.desc, []⟩

/-- The entry takes the sample: the descriptor agrees and the label values are new. -/
def FamilyEntry.accepts (e : FamilyEntry) (s : Sample) : Bool :=
  e.desc.agrees s.desc && !SortedTable.has s.labelKey e.samples

/-- Adds a sample; the answer tells whether it was kept. -/
def push (b : FamilyBuilder) (s : Sample) : Bool × FamilyBuilder :=
  let e := b.entryFor s
  if FamilyEntry.accepts e s then
    let e := { e with samples := SortedTable.insert s.labelKey s e.samples }
    (true, { b with families := SortedTable.insert s.desc.name e b.families })
  else (false, { b with dropped := b.dropped + 1 })

def pushAll (b : FamilyBuilder) (samples : List Sample) : FamilyBuilder :=
  samples.foldl (fun b s => (b.push s).2) b

/-- How many samples were kept. -/
def size (b : FamilyBuilder) : Nat := (b.families.flatMap fun (_, e) => e.samples).length

def isEmpty (b : FamilyBuilder) : Bool := b.families.isEmpty

/-- The families by name, their metrics by label values. -/
def finish (b : FamilyBuilder) : List Family :=
  b.families.map fun (name, e) =>
    ⟨name, e.desc.help, e.desc.kind, (SortedTable.values e.samples).map Sample.toMetric⟩

end FamilyBuilder
end MysqlMetrics
