import MysqlMetrics.Text.Lowercase
/-!
# Metric names

A metric name is a namespace, a subsystem and a stem joined by underscores. Free text, such as a
column or an event name, becomes a stem over `[a-z0-9_]` that is never empty.
-/
namespace MysqlMetrics.Naming

/-- Every metric starts with this word. -/
def root : String := "mysql"

/-- The parts that are not empty, joined by underscores. -/
def join (ns subsystem stem : String) : String :=
  "_".intercalate ([ns, subsystem, stem].filter fun part => !part.isEmpty)

/-- May the character stand in a stem as it is? -/
def isStemChar (c : Char) : Bool :=
  ('a' ≤ c && c ≤ 'z') || ('0' ≤ c && c ≤ '9') || c == '_'

/-- What a small letter or other character becomes in a stem. -/
def stemChars (c : Char) : List Char :=
  if isStemChar c then [c]
  else if c = '/' || c = '+' then "_and_".toList
  else if c = '>' || c = ',' || c = ':' || c = '(' || c = ')' then []
  else ['_']

def stemList (cs : List Char) : List Char := (cs.flatMap Text.lowerChar).flatMap stemChars

/-- A stem made of free text; text that leaves nothing is `unknown`. -/
def stem (s : String) : String :=
  match stemList s.toList with
  | [] => "unknown"
  | cs => String.ofList cs

end MysqlMetrics.Naming
