/-!
# Descriptors of metrics

A descriptor fixes what all samples of a metric share: its name, help, kind and labels. Two
descriptors agree when they differ at most in the order of their labels and in the values of the
constant ones.
-/
namespace MysqlMetrics

inductive Kind where
  | gauge
  | counter
  | untyped
  | histogram
  | summary
deriving DecidableEq, Repr, Inhabited

namespace Kind

/-- The word for the kind in the text format. -/
def word : Kind → String
  | .gauge => "gauge"
  | .counter => "counter"
  | .untyped => "untyped"
  | .histogram => "histogram"
  | .summary => "summary"

/-- The kind as messages name it. -/
def title : Kind → String
  | .gauge => "Gauge"
  | .counter => "Counter"
  | .untyped => "Untyped"
  | .histogram => "Histogram"
  | .summary => "Summary"

/-- Does a sample of this kind hold one number? -/
def isScalar : Kind → Bool
  | .histogram | .summary => false
  | _ => true

end Kind

structure Desc where
  name : String
  help : String
  kind : Kind
  /-- The labels whose values a sample gives, in order. -/
  labels : List String := []
  constLabels : List (String × String) := []
deriving DecidableEq, Repr, Inhabited

namespace Desc

/-- The names of all labels, sorted. -/
def labelNames (d : Desc) : List String :=
  (d.constLabels.map (·.1) ++ d.labels).mergeSort fun a b => a ≤ b

/-- The same name, help, kind and label names. -/
def agrees (a b : Desc) : Bool :=
  a.name == b.name && a.help == b.help && a.kind == b.kind && a.labelNames == b.labelNames

end Desc

inductive MetricError where
  | labelCount (name : String) (expected got : Nat)
  | missingData (name : String) (kind : Kind)
  | sinkClosed
deriving DecidableEq, Repr

def MetricError.message : MetricError → String
  | .labelCount name expected got =>
    "metric " ++ name ++ " expects " ++ toString expected ++ " label values, got " ++ toString got
  | .missingData name kind =>
    "metric " ++ name ++ " is a " ++ kind.title ++ " and needs matching sample data"
  | .sinkClosed => "metric sink is closed"

end MysqlMetrics
