/-!
# Names and literals in SQL text

A literal stands between apostrophes, with apostrophes and backslashes doubled. An identifier
stands between grave accents, with grave accents doubled.
-/
namespace MysqlMetrics.Sql

/-- The grave accent, which delimits identifiers. -/
def accent : Char := '\x60'

def literalChar (c : Char) : List Char :=
  if c = '\'' then ['\'', '\''] else if c = '\\' then ['\\', '\\'] else [c]

def quoteLiteral (s : String) : String :=
  String.ofList ('\'' :: s.toList.flatMap literalChar ++ ['\''])

def identifierChar (c : Char) : List Char := if c = accent then [accent, accent] else [c]

def quoteIdentifier (s : String) : String :=
  String.ofList (accent :: s.toList.flatMap identifierChar ++ [accent])

end MysqlMetrics.Sql
