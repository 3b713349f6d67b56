import MysqlMetrics.Program
import MysqlMetrics.Text.Split
/-!
# The landing page

A page with a link to the metrics and a table of all scrapers. Only the path comes from outside,
and its characters that mean something to markup are written as entities.
-/
namespace MysqlMetrics.Landing

/-- Writes an entity in place of every occurrence of a character. -/
def replace (c : Char) (entity s : String) : String :=
  String.ofList (s.toList.flatMap fun d => if d = c then entity.toList else [d])

/-- The ampersand goes first, as the entities of the others bring one with them. -/
def escape (s : String) : String :=
  replace '"' "&quot;" (replace '>' "&gt;" (replace '<' "&lt;" (replace '&' "&amp;" s)))

/-- The row of a scraper: its name, whether it is enabled by default, and whether it is now. -/
def row (scraper : String × Bool × Bool) : String :=
  let (name, default, enabled) := scraper
  "<tr><td>" ++ name ++ "</td><td>" ++ (if default then "enabled" else "disabled") ++ "</td><td>" ++
    (if enabled then "yes" else "no") ++ "</td></tr>\n"

def page (telemetryPath : String) (scrapers : List (String × Bool × Bool)) : String :=
  "<!DOCTYPE html>\n<html>\n<head><title>MySQLd Exporter</title></head>\n<body>\n" ++
  "<h1>MySQLd Exporter</h1>\n<p>" ++ Program.name ++ " " ++ Program.version ++ "</p>\n" ++
  "<p><a href=\"" ++ escape telemetryPath ++ "\">Metrics</a></p>\n<h2>Collectors</h2>\n<table>\n" ++
  "<tr><th>Name</th><th>Default</th><th>Enabled</th></tr>\n" ++ String.join (scrapers.map row) ++
  "</table>\n</body>\n</html>\n"

end MysqlMetrics.Landing
