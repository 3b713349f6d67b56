/-!
# Sorted tables

Association lists in strictly ascending order of their keys. Every table whose order an answer can
show is one of these: families, scrapers, targets, counters.
-/
namespace MysqlMetrics

/-- Pairs of key and value; the operations keep the keys strictly ascending. -/
abbrev SortedTable (α β : Type) := List (α × β)

namespace SortedTable

variable {α β γ : Type} [Ord α]

def find? (k : α) : SortedTable α β → Option β
  | [] => none
  | (k', v) :: rest => if compare k k' == .eq then some v else find? k rest

def has (k : α) (t : SortedTable α β) : Bool := (find? k t).isSome

/-- Puts `f` of the value at `k` in its place, of `none` if there is none yet. -/
def upsert (k : α) (f : Option β → β) : SortedTable α β → SortedTable α β
  | [] => [(k, f none)]
  | (k', v) :: rest =>
    match compare k k' with
    | .lt => (k, f none) :: (k', v) :: rest
    | .eq => (k, f (some v)) :: rest
    | .gt => (k', v) :: upsert k f rest

def insert (k : α) (v : β) (t : SortedTable α β) : SortedTable α β := upsert k (fun _ => v) t

/-- Changes the value at `k`, if there is one. -/
def adjust (k : α) (f : β → β) (t : SortedTable α β) : SortedTable α β :=
  t.map fun (k', v) => (k', if compare k k' == .eq then f v else v)

/-- Later pairs replace earlier ones of the same key. -/
def ofList (pairs : List (α × β)) : SortedTable α β :=
  pairs.foldl (fun t (k, v) => insert k v t) []

def keys (t : SortedTable α β) : List α := t.map (·.1)

def values (t : SortedTable α β) : List β := t.map (·.2)

end SortedTable

/-- Lists of texts are ordered by the first text that differs. -/
instance ordTexts : Ord (List String) := ⟨fun a b =>
  if a < b then .lt else if a = b then .eq else .gt⟩

end MysqlMetrics
