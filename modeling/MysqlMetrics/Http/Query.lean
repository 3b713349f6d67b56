import MysqlMetrics.Text.Percent
/-!
# The query of a scrape request

`collect[]` names collectors and may be given many times; `target` names the server to scrape, and
the last one that is not empty counts.
-/
namespace MysqlMetrics

structure ScrapeQuery where
  collect : List String := []
  target : Option String := none
deriving DecidableEq, Repr, Inhabited

namespace ScrapeQuery

def add (q : ScrapeQuery) (pair : String × String) : ScrapeQuery :=
  match pair with
  | ("collect[]", value) => { q with collect := q.collect ++ [value] }
  | ("target", value) => if value.isEmpty then q else { q with target := some value }
  | _ => q

def ofPairs (pairs : List (String × String)) : ScrapeQuery := pairs.foldl add {}

def parse (query : Option String) : ScrapeQuery := ofPairs (Percent.formPairs (query.getD ""))

end ScrapeQuery
end MysqlMetrics
