import MysqlMetrics.Decimal.Shortest
import MysqlMetrics.Metric.Family
/-!
# The text format of metrics

Each family is a comment with its help, one with its kind, and a line for every number. Families
are checked as they are reached: one without a name or without metrics is refused, and an untyped
one cannot be written.
-/
namespace MysqlMetrics.Exposition

inductive EncodeError where
  /-- A family has no name or no metrics. -/
  | refused
  /-- The format has no way to write an untyped family. -/
  | unsupported
deriving DecidableEq, Repr

def EncodeError.message : EncodeError → String
  | .refused => "failed to encode metric families"
  | .unsupported => "not implemented"

def escapeHelp (s : String) : String :=
  String.ofList (s.toList.flatMap fun c =>
    if c = '\\' then ['\\', '\\'] else if c = '\n' then ['\\', 'n'] else [c])

def escapeLabel (s : String) : String :=
  String.ofList (s.toList.flatMap fun c =>
    if c = '\\' then ['\\', '\\'] else if c = '\n' then ['\\', 'n']
    else if c = '"' then ['\\', '"'] else [c])

/-- The labels between braces; nothing for no labels. -/
def labelBlock (labels : List (String × String)) : String :=
  if labels.isEmpty then ""
  else
    "\x7b" ++ ",".intercalate (labels.map fun (k, v) => k ++ "=\"" ++ escapeLabel v ++ "\"") ++
      "\x7d"

def line (name : String) (labels : List (String × String)) (value : Float) : String :=
  name ++ labelBlock labels ++ " " ++ Decimal.write value ++ "\n"

/-- The lines of a histogram: the buckets, up to infinity, then the sum and the count. -/
def histogramLines (name : String) (labels : List (String × String)) (h : Histogram) : String :=
  let buckets := h.buckets.map fun (bound, count) =>
    line (name ++ "_bucket") (labels ++ [("le", Decimal.write bound)]) (Decimal.ofNat count)
  let last :=
    if h.buckets.any fun (bound, _) => bound == Decimal.infinity then ""
    else line (name ++ "_bucket") (labels ++ [("le", "+Inf")]) (Decimal.ofNat h.count)
  String.join buckets ++ last ++ line (name ++ "_sum") labels h.sum ++
    line (name ++ "_count") labels (Decimal.ofNat h.count)

/-- The lines of a summary: the quantiles, then the sum and the count. -/
def summaryLines (name : String) (labels : List (String × String)) (s : Summary) : String :=
  let quantiles := s.quantiles.map fun (q, v) =>
    line name (labels ++ [("quantile", Decimal.write q)]) v
  String.join quantiles ++ line (name ++ "_sum") labels s.sum ++
    line (name ++ "_count") labels (Decimal.ofNat s.count)

def metricLines (name : String) (m : Metric) : String :=
  match m.reading with
  | .scalar x => line name m.labels x
  | .histogram h => histogramLines name m.labels h
  | .summary s => summaryLines name m.labels s

def family (f : Family) : Except EncodeError String :=
  if f.metrics.isEmpty || f.name.isEmpty then .error .refused
  else if f.kind = .untyped then .error .unsupported
  else
    let help :=
      if f.help.isEmpty then "" else "# HELP " ++ f.name ++ " " ++ escapeHelp f.help ++ "\n"
    .ok (help ++ "# TYPE " ++ f.name ++ " " ++ f.kind.word ++ "\n" ++
      String.join (f.metrics.map (metricLines f.name)))

/-- The text of all families in order; the first that cannot be written decides. -/
def render (families : List Family) : Except EncodeError String :=
  (families.mapM family).map String.join

end MysqlMetrics.Exposition
