import MysqlMetrics.Proofs.Collector.Statements
import MysqlMetrics.Proofs.Sql.Statement
import MysqlMetrics.Proofs.Text
/-!
# Statements that are selections

Two collectors put what they are configured with into a statement. The statement for heartbeats is a
selection whatever its names are (`Heartbeat.isStatement_query`). The one for the sizes of tables is
built from a text: a star asks for all databases but two, and any other text for those that it names
between its commas. What is asked for comes out in the statement one to one
(`TableSizes.tokens_queryFor_star`, `TableSizes.tokens_queryFor_names`), and the statement is a
selection as long as a database is named at all (`TableSizes.isStatement_queryFor`).
-/
namespace MysqlMetrics.Collector

open Sql

namespace Heartbeat

theorem isSelection_selected (database table : String) (utc : Bool) :
    IsSelection (selected utc ++ [.name database, .sign '.', .name table]) := by
  have hclock : (Token.word (if utc then "UTC_TIMESTAMP" else "NOW")).isName = true := by
    cases utc <;> decide
  have hstored : IsExpr (.word "UNIX_TIMESTAMP" :: .sign '(' :: [.word "ts"] ++ [.sign ')']) :=
    .call_one (by decide) (.name (by decide))
  have hnow := IsExpr.call_one (f := "UNIX_TIMESTAMP") (by decide)
    (.call_one hclock (.name (t := .word "6") (by decide)))
  have hserver : IsExpr [.word "server_id"] := .name (by decide)
  have hitems := List.forall_mem_cons.2 ⟨IsItem.plain hstored,
    List.forall_mem_cons.2 ⟨IsItem.plain hnow, List.forall_mem_singleton.2 (IsItem.plain hserver)⟩⟩
  exact .all (.mk (s := .word "SELECT") (f := .word "FROM") (by decide) (by simp) hitems (by decide)
    (.within (d := .name database) (t := .name table) rfl rfl))

/-- With every database, table and clock it is a selection. -/
theorem isStatement_query (args : ArgSet) : IsStatement (query args) :=
  ⟨_, tokens_queryFor _ _ _, isSelection_selected _ _ _⟩

end Heartbeat

namespace TableSizes

variable {databases : String} {names : List String}

/-! ## Selections with a filter -/

theorem isItem_plain {s : String} (h : (Token.word s).isName = true) : IsItem (plain s) :=
  .plain (.name h)

theorem isItem_orElse {column other : String} (h : (Token.word column).isName = true) :
    IsItem (orElse column other) := by
  have hargs : ∀ e ∈ [[Token.word column], [Token.text other]], IsExpr e := by
    simpa using And.intro (IsExpr.name h) (IsExpr.text other)
  exact .named (k := .word "AS") (.call (f := "IFNULL") (by decide) hargs) (by decide) h

theorem isSource_selected : IsSource selected := by
  have htable : IsTable [.word "information_schema", .sign '.', .word "tables"] :=
    .within (by decide) (by decide)
  refine .mk (s := .word "SELECT") (f := .word "FROM") (by decide) (by simp) ?_ (by decide) htable
  simp only [List.forall_mem_cons, List.not_mem_nil, false_implies, implies_true, and_true]
  exact ⟨isItem_plain (by decide), isItem_plain (by decide), isItem_plain (by decide),
    isItem_orElse (by decide), isItem_orElse (by decide), isItem_orElse (by decide),
    isItem_orElse (by decide), isItem_orElse (by decide), isItem_orElse (by decide),
    isItem_orElse (by decide), isItem_orElse (by decide)⟩

/-- Texts in a list. -/
def listed (names : List String) : List Token :=
  .sign '(' :: (names.map Token.text).intersperse (.sign ',') ++ [.sign ')']

theorem isList_listed (h : names ≠ []) : IsList (listed names) := by
  have htexts : commas (names.map fun name => [Token.text name]) =
      (names.map Token.text).intersperse (.sign ',') := by
    rw [← commas_singletons, List.map_map]
    rfl
  rw [listed, ← htexts]
  refine .mk (by simpa using h) fun e he => ?_
  obtain ⟨name, -, rfl⟩ := List.mem_map.1 he
  exact .text name

/-- The statement for all databases but some. -/
def exceptFor (names : List String) : List Token :=
  selected ++ .word "WHERE" :: .word "TABLE_SCHEMA" :: .word "NOT" :: .word "IN" :: listed names

/-- The statement for some databases. -/
def onlyFor (names : List String) : List Token :=
  selected ++ .word "WHERE" :: .word "TABLE_SCHEMA" :: .word "IN" :: listed names

theorem isSelection_exceptFor (h : names ≠ []) : IsSelection (exceptFor names) :=
  .filtered isSource_selected (by decide)
    (.without (e := [.word "TABLE_SCHEMA"]) (.name (by decide)) (by decide) (by decide)
      (isList_listed h))

theorem isSelection_onlyFor : IsSelection (onlyFor names) ↔ names ≠ [] := by
  constructor
  · rintro h rfl
    refine not_isSelection_empty
      (selected ++ [.word "WHERE", .word "TABLE_SCHEMA", .word "IN"]) ?_
    simpa [onlyFor, listed] using h
  · exact fun h => .filtered isSource_selected (by decide)
      (.within (e := [.word "TABLE_SCHEMA"]) (.name (by decide)) (by decide) (isList_listed h))

/-! ## What is configured -/

theorem tokens_queryFor_star (h : Text.trim databases = "*") :
    tokens (queryFor databases) =
      some (exceptFor ["information_schema", "performance_schema"]) := by
  rw [tokens_queryFor, filtered, if_pos (by simpa using h)]
  rfl

theorem tokens_queryFor_names (h : Text.trim databases ≠ "*") :
    tokens (queryFor databases) = some (onlyFor (databaseNames databases)) := by
  rw [tokens_queryFor, filtered, if_neg (by simpa using h)]
  simp [onlyFor, listed]

/-- No database is named where there are blanks and commas only. -/
theorem databaseNames_eq_nil :
    databaseNames databases = [] ↔ ∀ c ∈ databases.toList, c = ',' ∨ Text.isBlank c = true := by
  have hpieces : databaseNames databases = [] ↔
      ∀ piece ∈ Text.splitList (· == ',') databases.toList,
      ∀ c ∈ piece, Text.isBlank c = true := by
    simp [databaseNames, Text.split, Text.trim, List.filter_eq_nil_iff, Text.trimList_eq_nil]
  rw [hpieces, Text.forall_mem_splitList]
  simp

/-- A star is neither a blank nor a comma. -/
theorem exists_of_trim_eq_star (h : Text.trim databases = "*") :
    ∃ c ∈ databases.toList, c ≠ ',' ∧ Text.isBlank c = false := by
  obtain ⟨before, after, -, -, hparts⟩ := Text.exists_between databases
  refine ⟨'*', ?_, by decide, by decide⟩
  rw [hparts, h]
  simp

theorem isStatement_queryFor : IsStatement (queryFor databases) ↔
    ∃ c ∈ databases.toList, c ≠ ',' ∧ Text.isBlank c = false := by
  by_cases h : Text.trim databases = "*"
  · rw [isStatement_iff (tokens_queryFor_star h)]
    exact iff_of_true (isSelection_exceptFor (by simp)) (exists_of_trim_eq_star h)
  · rw [isStatement_iff (tokens_queryFor_names h), isSelection_onlyFor, ne_eq, databaseNames_eq_nil]
    simp

/-- **Databases of the statement.** With a star it asks for all databases but the two virtual ones.
With any other text it asks for those that stand between the commas, without blanks around them and
without those that are then empty, in their order. It is a selection if and only if there is
something in the text besides blanks and commas. -/
theorem query_databases (args : ArgSet) :
    ∃ pieces, Text.IsCut ',' (args.string "databases") pieces ∧
      tokens (query args) = some
        (if Text.trim (args.string "databases") = "*" then
          exceptFor ["information_schema", "performance_schema"]
        else onlyFor ((pieces.map Text.trim).filter (· ≠ ""))) ∧
      (IsStatement (query args) ↔
        ∃ c ∈ (args.string "databases").toList, c ≠ ',' ∧ Text.isBlank c = false) := by
  refine ⟨_, Text.isCut_iff.2 rfl, ?_, isStatement_queryFor⟩
  split
  · exact tokens_queryFor_star ‹_›
  · have hnames : databaseNames (args.string "databases") =
        ((Text.split ',' (args.string "databases")).map Text.trim).filter (· ≠ "") :=
      List.filter_congr fun name _ => by rw [Bool.eq_iff_iff]; simp
    rw [← hnames]
    exact tokens_queryFor_names ‹_›

/-- A comma between blanks names no database, and the list that is asked for is empty. -/
theorem not_isStatement_comma : ∃ args,
    (ArgSet.new "info_schema.tables" definitions).configure [⟨"databases", .string " , "⟩] =
      .ok args ∧ ¬ IsStatement (query args) := by
  refine ⟨_, rfl, fun h => ?_⟩
  obtain ⟨pieces, -, -, hstatement⟩ := query_databases _
  obtain ⟨c, hc, hcomma, hblank⟩ := hstatement.1 h
  have hall : " , ".toList.all (fun c => c == ',' || Text.isBlank c) = true := by decide
  have hsep : c = ',' ∨ Text.isBlank c = true := by
    simpa using List.all_eq_true.1 hall c hc
  simp [hcomma, hblank] at hsep

end TableSizes
end MysqlMetrics.Collector
