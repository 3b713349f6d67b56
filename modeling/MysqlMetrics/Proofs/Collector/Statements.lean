import MysqlMetrics.Collector.Heartbeat
import MysqlMetrics.Collector.TableSizes
import MysqlMetrics.Proofs.Sql.Quoting
/-!
# Statements with configured names

Two collectors put what they are configured with into the text of a statement. Taken apart, each
statement is fixed but for the names and texts in it, which are the configured ones whatever
characters they have (`tokens_configured`).
-/
namespace MysqlMetrics

open Sql

namespace Sql

/-- What is read between commas is as many tokens as there are texts. -/
theorem tokensFrom_literals (names : List String) {rest : List Char} (h : rest.head? ≠ some '\'') :
    tokensFrom .between ((", ".intercalate (names.map quoteLiteral)).toList ++ rest) =
      (tokensFrom .between rest).map ((names.map Token.text).intersperse (.sign ',') ++ ·) := by
  induction names with
  | nil => simp
  | cons a names ih =>
    cases names with
    | nil => simpa using tokensFrom_literal a h
    | cons b names =>
      have hcomma : advance .between ", ".toList = some ([.sign ','], .between) := by decide
      rw [List.map_cons, List.map_cons, String.intercalate_cons_cons, ← List.map_cons,
        String.toList_append, String.toList_append, List.append_assoc, List.append_assoc,
        tokensFrom_literal a (by simp), tokensFrom_append hcomma, ih]
      simp [Function.comp_def]

end Sql

namespace Collector

namespace Heartbeat

/-- What is asked for: the stored time, the present time by one of two clocks, and the server. -/
def selected (utc : Bool) : List Token :=
  [.word "SELECT", .word "UNIX_TIMESTAMP", .sign '(', .word "ts", .sign ')', .sign ',',
   .word "UNIX_TIMESTAMP", .sign '(', .word (if utc then "UTC_TIMESTAMP" else "NOW"), .sign '(',
   .word "6", .sign ')', .sign ')', .sign ',', .word "server_id", .word "FROM"]

theorem tokens_queryFor (database table : String) (utc : Bool) :
    tokens (queryFor database table utc) =
      some (selected utc ++ [.name database, .sign '.', .name table]) := by
  have hselected : advance .between ("SELECT UNIX_TIMESTAMP(ts), UNIX_TIMESTAMP(" ++
      (if utc then "UTC_TIMESTAMP(6)" else "NOW(6)") ++ "), server_id FROM ").toList =
        some (selected utc, .between) := by
    -- characters are read faster than the text that holds them
    simp only [String.toList_append]
    cases utc with
    | false =>
      rw [if_neg (by decide), String.toList_ofList, String.toList_ofList, String.toList_ofList]
      decide
    | true =>
      rw [if_pos rfl, String.toList_ofList, String.toList_ofList, String.toList_ofList]
      decide
  have hdot : advance .between ".".toList = some ([.sign '.'], .between) := by decide
  have hparts : ∀ front : String,
      (front ++ quoteIdentifier database ++ "." ++ quoteIdentifier table).toList = front.toList ++
        ((quoteIdentifier database).toList ++ (".".toList ++ (quoteIdentifier table).toList)) := by
    simp
  have hother : (".".toList ++ (quoteIdentifier table).toList).head? ≠ some accent := by
    simp [accent]
  have htable : tokensFrom .between (quoteIdentifier table).toList = some [.name table] :=
    tokens_quoteIdentifier table
  unfold tokens queryFor
  rw [hparts, tokensFrom_append hselected, tokensFrom_identifier database hother,
    tokensFrom_append hdot, htable]
  rfl

end Heartbeat

namespace TableSizes

/-- A column by its name. -/
def plain (column : String) : List Token := [.word column]

/-- A column, or a text in its place where it is NULL. -/
def orElse (column other : String) : List Token :=
  [.word "IFNULL", .sign '(', .word column, .sign ',', .text other, .sign ')', .word "AS",
   .word column]

/-- What is asked for. -/
def selected : List Token :=
  .word "SELECT" ::
    [.sign ','].intercalate
      [plain "TABLE_SCHEMA", plain "TABLE_NAME", plain "TABLE_TYPE", orElse "ENGINE" "NONE",
       orElse "VERSION" "0", orElse "ROW_FORMAT" "NONE", orElse "TABLE_ROWS" "0",
       orElse "DATA_LENGTH" "0", orElse "INDEX_LENGTH" "0", orElse "DATA_FREE" "0",
       orElse "CREATE_OPTIONS" "NONE"] ++
    [.word "FROM", .word "information_schema", .sign '.', .word "tables"]

/-- Of which databases it is asked: of all but two, or of those that are named. -/
def filtered (databases : String) : List Token :=
  if Text.trim databases == "*" then
    [.word "WHERE", .word "TABLE_SCHEMA", .word "NOT", .word "IN", .sign '(',
     .text "information_schema", .sign ',', .text "performance_schema", .sign ')']
  else
    [.word "WHERE", .word "TABLE_SCHEMA", .word "IN", .sign '('] ++
      ((databaseNames databases).map Token.text).intersperse (.sign ',') ++ [.sign ')']

theorem tokens_queryFor (databases : String) :
    tokens (queryFor databases) = some (selected ++ filtered databases) := by
  have hselected : advance .between (selection ++ " ").toList = some (selected, .between) := by
    unfold selection
    simp only [String.toList_append]
    repeat rw [String.toList_ofList]
    decide +kernel
  have hfiltered :
      tokensFrom .between (filterFor databases).toList = some (filtered databases) := by
    unfold filterFor filtered
    split
    · rw [String.toList_ofList]
      decide
    · have hin : advance .between "WHERE TABLE_SCHEMA IN (".toList =
          some ([.word "WHERE", .word "TABLE_SCHEMA", .word "IN", .sign '('], .between) := by
        rw [String.toList_ofList]
        decide
      have hend : tokensFrom .between ")".toList = some [.sign ')'] := by decide
      have hother : ")".toList.head? ≠ some '\'' := by simp
      rw [String.toList_append, String.toList_append, List.append_assoc, tokensFrom_append hin,
        tokensFrom_literals _ hother, hend]
      simp
  rw [tokens, queryFor, String.toList_append, tokensFrom_append hselected, hfiltered]
  rfl

end TableSizes

/-- **Names do not change statements.** A quoted text is read as that text and a quoted name as that
name, with nothing left over, whatever their characters. So the statement for heartbeats is fixed
but for two names, and that for the sizes of tables is fixed but for the texts in a list. To the
reader of `Sql.step` the character zero in a name is one like any other; a server breaks off there
and runs nothing. -/
theorem tokens_configured :
    (∀ s, tokens (quoteLiteral s) = some [.text s] ∧ tokens (quoteIdentifier s) = some [.name s]) ∧
    (∀ args : ArgSet, tokens (Heartbeat.query args) =
      some (Heartbeat.selected (args.bool "utc") ++
        [.name (args.string "database"), .sign '.', .name (args.string "table")])) ∧
    ∀ args : ArgSet, tokens (TableSizes.query args) =
      some (TableSizes.selected ++ TableSizes.filtered (args.string "databases")) :=
  ⟨fun s => ⟨tokens_quoteLiteral s, tokens_quoteIdentifier s⟩,
    fun _ => Heartbeat.tokens_queryFor _ _ _, fun _ => TableSizes.tokens_queryFor _⟩

end Collector
end MysqlMetrics
