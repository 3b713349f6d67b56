import MysqlMetrics.SortedTable
import MysqlMetrics.Yaml.Node
/-!
# Reading nodes as values

What the files of this program expect of a node: a text, a switch, a record of known fields, a
table. A scalar of any look is a text as it stands; nothing at all is a record or table without
entries.
-/
namespace MysqlMetrics.Yaml.Node

def text? : Node → Option String
  | .scalar _ _ text => some text
  | _ => none

def switch? : Node → Option Bool
  | .scalar true _ text =>
    if ["true", "True", "TRUE"].contains text then some true
    else if ["false", "False", "FALSE"].contains text then some false
    else none
  | _ => none

def isNullWord (text : String) : Bool := ["null", "Null", "NULL", "~"].contains text

def isNullTag (tag : String) : Bool := tag == "!!null" || tag == "!<tag:yaml.org,2002:null>"

/-- A value that may be null. -/
def optional? {α : Type} (read : Node → Option α) (n : Node) : Option (Option α) :=
  let given := (read n).map some
  match n with
  | .scalar true none text => if text.isEmpty || isNullWord text then some none else given
  | .scalar true (some tag) text =>
    if !isNullTag tag then given else if isNullWord text then some none else none
  | _ => given

/-- The entries of a mapping, of which nothing at all is one without entries. -/
def entries? : Node → Option (List (Node × Node))
  | .mapping _ entries => some entries
  | .scalar _ (some tag) _ => if isNullTag tag then some [] else none
  | .scalar plain none text => if plain && text.isEmpty then some [] else none
  | .sequence _ => none

/-- The fields of a record: each is known and none is given twice. -/
def record? (known : List String) (n : Node) : Option (List (String × Node)) := do
  let fields ← (← entries? n).mapM fun (k, v) => (text? k).map fun name => (name, v)
  let names := fields.map (·.1)
  if names.all known.contains && names.eraseDups.length == names.length then some fields else none

/-- A field that has a default. -/
def field? {α : Type} (fields : List (String × Node)) (name : String) (read : Node → Option α)
    (default : α) : Option α :=
  match fields.lookup name with
  | some n => read n
  | none => some default

/-- A table of values; of entries with one key the last holds. -/
def table? {α : Type} (read : Node → Option α) (n : Node) : Option (SortedTable String α) := do
  let pairs ← (← entries? n).mapM fun (k, v) => do return (← text? k, ← read v)
  return .ofList pairs

mutual

/-- How many collections stand inside one another. -/
def depth : Node → Nat
  | .scalar .. => 0
  | .sequence items => depthOfItems items + 1
  | .mapping _ entries => depthOfEntries entries + 1

def depthOfItems : List Node → Nat
  | [] => 0
  | n :: ns => max (depth n) (depthOfItems ns)

def depthOfEntries : List (Node × Node) → Nat
  | [] => 0
  | (k, v) :: rest => max (max (depth k) (depth v)) (depthOfEntries rest)

end

/-- The scalars among the keys of a mapping. -/
def scalarKeys (entries : List (Node × Node)) : List (Bool × String) :=
  entries.filterMap fun
    | (.scalar plain _ text, _) => some (plain, text)
    | _ => none

mutual

/-- No mapping in the node gives a key twice. -/
def hasDistinctKeys : Node → Bool
  | .scalar .. => true
  | .sequence items => itemsHaveDistinctKeys items
  | .mapping _ entries =>
    let keys := scalarKeys entries
    keys.eraseDups.length == keys.length && entriesHaveDistinctKeys entries

def itemsHaveDistinctKeys : List Node → Bool
  | [] => true
  | n :: ns => hasDistinctKeys n && itemsHaveDistinctKeys ns

def entriesHaveDistinctKeys : List (Node × Node) → Bool
  | [] => true
  | (k, v) :: rest => hasDistinctKeys k && hasDistinctKeys v && entriesHaveDistinctKeys rest

end

/-- A value of any shape. -/
def any? (n : Node) : Option Node := if hasDistinctKeys n then some n else none

/-- Reads the one document of a text; a text without one reads as a record without fields. -/
def readText? {α : Type} (read : Node → Option α) (s : String) : Option α :=
  (ofText? s).bind fun n =>
    let n := n.getD empty
    if depth n ≤ 128 then read n else none

end MysqlMetrics.Yaml.Node
