import MysqlMetrics.Metric.Desc
/-!
# Samples

A sample is one observation of a metric. It is made only through `scalar`, `ofHistogram` and
`ofSummary`, which refuse a descriptor of another kind first, and then a wrong number of label
values.
-/
namespace MysqlMetrics

structure Histogram where
  count : Nat
  sum : Float
  /-- Upper bounds with the count of all observations up to them. -/
  buckets : List (Float × Nat)

structure Summary where
  count : Nat
  sum : Float
  /-- Quantiles with their values. -/
  quantiles : List (Float × Float)

/-- What was observed. -/
inductive Reading where
  | scalar (value : Float)
  | histogram (data : Histogram)
  | summary (data : Summary)

structure Sample where
  desc : Desc
  labels : List String
  reading : Reading

namespace Sample

def build (desc : Desc) (labels : List String) (reading : Reading) : Except MetricError Sample :=
  if labels.length = desc.labels.length then .ok ⟨desc, labels, reading⟩
  else .error (.labelCount desc.name desc.labels.length labels.length)

/-- One number under a gauge, counter or untyped descriptor. -/
def scalar (desc : Desc) (value : Float) (labels : List String) : Except MetricError Sample :=
  if desc.kind.isScalar then build desc labels (.scalar value)
  else .error (.missingData desc.name desc.kind)

def ofHistogram (desc : Desc) (data : Histogram) (labels : List String) :
    Except MetricError Sample :=
  if desc.kind = .histogram then build desc labels (.histogram data)
  else .error (.missingData desc.name desc.kind)

def ofSummary (desc : Desc) (data : Summary) (labels : List String) : Except MetricError Sample :=
  if desc.kind = .summary then build desc labels (.summary data)
  else .error (.missingData desc.name desc.kind)

/-- The number observed, or the sum of the observations. -/
def value (s : Sample) : Float :=
  match s.reading with
  | .scalar x => x
  | .histogram data => data.sum
  | .summary data => data.sum

/-- The value of a label, a variable one before a constant one of the same name. -/
def label (s : Sample) (name : String) : Option String :=
  (((s.desc.labels.findIdx? (· == name)).bind fun i => s.labels[i]?)).or
    ((s.desc.constLabels.find? (·.1 == name)).map (·.2))

/-- All labels with their values, sorted by name. -/
def labelPairs (s : Sample) : List (String × String) :=
  (s.desc.constLabels ++ s.desc.labels.zip s.labels).mergeSort fun a b => a.1 ≤ b.1

/-- The values of all labels in the order of the label names. -/
def labelKey (s : Sample) : List String := s.labelPairs.map (·.2)

end Sample
end MysqlMetrics
