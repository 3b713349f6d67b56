import MysqlMetrics.Proofs.Collector.Samples
import MysqlMetrics.Proofs.Naming
/-!
# Names of the collectors' metrics

The name of every metric that a collector makes a sample of begins with the word of the exporter and
a subsystem of the collector. Something follows, and all of it is small letters, digits and
underscores (`Named`), whatever the columns and keys are that names are made for.
-/
namespace MysqlMetrics

open Collector

/-! ## Names -/

/-- A name in one of some subsystems. -/
structure Named (subsystems : List String) (name : String) : Prop where
  chars : ∀ c ∈ name.toList, isNameChar c = true
  parts : ∃ subsystem ∈ subsystems, ∃ stem, stem ≠ "" ∧ name = "mysql_" ++ subsystem ++ "_" ++ stem

section Named

variable {subsystems : List String} {subsystem stem : String}

theorem named_of_parts (hs : subsystem ∈ subsystems) (hsub : IsNamePart subsystem)
    (hstem : IsNamePart stem) : Named subsystems ("mysql_" ++ subsystem ++ "_" ++ stem) := by
  have hroot : IsNamePart "mysql_" := isNamePart_ofList (by decide)
  have hblank : IsNamePart "_" := isNamePart_ofList (by decide)
  exact ⟨(((hroot.append hsub).append hblank).append hstem).chars, subsystem, hs, stem,
    hstem.ne_empty, rfl⟩

theorem named_describe (hs : subsystem ∈ subsystems) (hsub : IsNamePart subsystem)
    (hstem : IsNamePart stem) (help : String) (kind : Kind) (labels : List String) :
    Named subsystems (describe subsystem stem help kind labels).name := by
  -- no part is empty, so that none is left out when they are joined
  have hname : (describe subsystem stem help kind labels).name =
      Naming.root ++ "_" ++ subsystem ++ "_" ++ stem :=
    Naming.join_eq (show Naming.root ≠ "" by decide) hsub.ne_empty hstem.ne_empty
  rw [hname, show Naming.root ++ "_" = "mysql_" by decide]
  exact named_of_parts hs hsub hstem

/-! ## Tables of columns -/

/-- A table makes names in a subsystem. -/
structure NamesIn (subsystem : String) (t : Dispatch) : Prop where
  part : IsNamePart subsystem
  stem : t.stem = "mysql_" ++ subsystem
  known : ∀ p ∈ t.known, Named [subsystem] p.2.desc.name

variable {t : Dispatch}

theorem namesIn_new (hsub : IsNamePart subsystem) (labelColumns : List (String × String)) :
    NamesIn subsystem (Dispatch.new Naming.root subsystem labelColumns) := by
  refine ⟨hsub, ?_, by simp [Dispatch.new]⟩
  have hparts : [Naming.root, subsystem, ""].filter (fun part => !part.isEmpty) =
      [Naming.root, subsystem] := by
    simp [hsub.ne_empty, Naming.root]
  rw [Dispatch.new, Naming.join, hparts]
  simp [String.intercalate_cons_cons, Naming.root]

theorem NamesIn.column (h : NamesIn subsystem t) (hstem : IsNamePart stem) (name : String)
    (kind : Kind) (help : String) (unit : Float) :
    NamesIn subsystem (t.column name kind stem help unit) := by
  refine ⟨h.part, h.stem, fun p hp => ?_⟩
  rcases SortedTable.mem_insert hp with rfl | hp
  · dsimp only
    rw [h.stem]
    exact named_of_parts List.mem_cons_self h.part hstem
  · exact h.known p hp

/-- A table is made of columns that are declared one after the other. -/
theorem namesIn_foldl {α : Type} {columns : List α} {declare : Dispatch → α → Dispatch}
    (hsub : IsNamePart subsystem) (labelColumns : List (String × String))
    (h : ∀ x ∈ columns, ∀ t, NamesIn subsystem t → NamesIn subsystem (declare t x)) :
    NamesIn subsystem
      (columns.foldl declare (Dispatch.new Naming.root subsystem labelColumns)) :=
  List.foldlRecOn columns declare (motive := NamesIn subsystem) (namesIn_new hsub labelColumns)
    fun t ht x hx => h x hx t ht

theorem NamesIn.named (h : NamesIn subsystem t) {d : Desc} (hd : t.Describes d) :
    Named [subsystem] d.name := by
  rcases hd with ⟨p, hp, rfl⟩ | ⟨column, rfl⟩
  · exact h.known p hp
  · have hname : (t.genericDesc column).name = t.stem ++ "_" ++ Naming.stem column := rfl
    rw [hname, h.stem]
    exact named_of_parts List.mem_cons_self h.part (isNamePart_stem column)

end Named

/-! ## The collectors -/

def QueryCollector.subsystems : QueryCollector → List String
  | .globalStatus => ["global_status", "galera"]
  | .globalVariables => ["global_variables", "version", "transaction", "galera"]
  | .binaryLogs => ["binlog"]
  | .replicaStatus => ["slave_status"]
  | .heartbeat => ["heartbeat"]
  | .processlist | .tableSizes | .pageCompression | .responseTime => ["info_schema"]
  | .tableStatistics => ["innodb_table_stats"]
  | .statementDigests | .fileEvents | .groupMembers => ["perf_schema"]

namespace Collector

variable {d : Desc}

theorem isNamePart_infoSchema : IsNamePart infoSchema := isNamePart_ofList (by decide)

theorem isNamePart_perfSchema : IsNamePart perfSchema := isNamePart_ofList (by decide)

theorem GlobalStatus.named (h : Describes d) : Named [subsystem, "galera"] d.name := by
  have hsub : IsNamePart subsystem := isNamePart_ofList (by decide)
  have hgalera : IsNamePart "galera" := isNamePart_ofList (by decide)
  rcases h with h | ⟨key, rfl⟩
  · simp only [rules, List.map_cons, List.map_nil, List.cons_append, List.nil_append,
      List.mem_cons, List.not_mem_nil, or_false] at h
    rcases h with rfl | rfl | rfl | rfl | rfl | rfl | rfl | rfl | rfl | rfl
    iterate 8
      exact named_describe (by simp) hsub (isNamePart_ofList (by decide)) _ _ _
    iterate 2
      exact named_describe (by simp) hgalera (isNamePart_ofList (by decide)) _ _ _
  · exact named_describe (by simp) hsub (isNamePart_stem key) _ _ _

theorem GlobalVariables.named (h : Describes d) :
    Named ["global_variables", "version", "transaction", "galera"] d.name := by
  rcases h with h | ⟨key, rfl⟩
  · simp only [List.mem_cons, List.not_mem_nil, or_false] at h
    rcases h with rfl | rfl | rfl | rfl <;>
      exact named_describe (by simp) (isNamePart_ofList (by decide))
        (isNamePart_ofList (by decide)) _ _ _
  · exact named_describe (by simp) (isNamePart_ofList (by decide))
      (isNamePart_stem key) _ _ _

theorem BinaryLogs.named (h : Describes d) : Named ["binlog"] d.name := by
  simp only [Describes, List.mem_cons, List.not_mem_nil, or_false] at h
  rcases h with rfl | rfl | rfl <;>
    exact named_describe (by simp) (isNamePart_ofList (by decide))
      (isNamePart_ofList (by decide)) _ _ _

theorem ReplicaStatus.named (h : Describes d) : Named ["slave_status"] d.name := by
  obtain ⟨column, rfl⟩ := h
  exact named_describe (by simp) (isNamePart_ofList (by decide))
    (isNamePart_stem column) _ _ _

theorem Heartbeat.named (h : Describes d) : Named ["heartbeat"] d.name := by
  simp only [Describes, List.mem_cons, List.not_mem_nil, or_false] at h
  rcases h with rfl | rfl <;>
    exact named_describe (by simp) (isNamePart_ofList (by decide))
      (isNamePart_ofList (by decide)) _ _ _

theorem Processlist.named (h : Describes d) : Named [infoSchema] d.name := by
  have hstart : IsNamePart "processlist_" := isNamePart_ofList (by decide)
  simp only [Describes, List.mem_cons, List.not_mem_nil, or_false] at h
  rcases h with rfl | rfl | rfl | rfl <;>
    exact named_describe List.mem_cons_self isNamePart_infoSchema
      (hstart.append (isNamePart_ofList (by decide))) _ _ _

theorem TableSizes.named (h : Describes d) : Named [infoSchema] d.name := by
  simp only [Describes, List.mem_cons, List.not_mem_nil, or_false] at h
  rcases h with rfl | rfl | rfl <;>
    exact named_describe List.mem_cons_self isNamePart_infoSchema
      (isNamePart_ofList (by decide)) _ _ _

theorem PageCompression.namesIn : NamesIn infoSchema table := by
  have hstems : ∀ x ∈ columns, IsNamePart x.2.1 := by
    intro x hx
    simp only [columns, List.mem_cons, List.not_mem_nil, or_false] at hx
    rcases hx with rfl | rfl | rfl | rfl | rfl <;>
      exact isNamePart_ofList (by decide)
  refine namesIn_foldl isNamePart_infoSchema _ fun x hx t ht => ?_
  exact ht.column (hstems x hx) _ _ _ _

theorem PageCompression.named (h : table.Describes d) : Named [infoSchema] d.name :=
  namesIn.named h

theorem ResponseTime.named (h : Describes d) : Named [infoSchema] d.name := by
  obtain ⟨p, hp, rfl⟩ := h
  simp only [sources, List.mem_cons, List.not_mem_nil, or_false] at hp
  rcases hp with rfl | rfl | rfl <;>
    exact named_describe List.mem_cons_self isNamePart_infoSchema
      (isNamePart_ofList (by decide)) _ _ _

theorem TableStatistics.namesIn : NamesIn "innodb_table_stats" table := by
  have hstems : ∀ x ∈ columns, IsNamePart x.1 := by
    intro x hx
    simp only [columns, List.mem_cons, List.not_mem_nil, or_false] at hx
    rcases hx with rfl | rfl | rfl <;> exact isNamePart_ofList (by decide)
  refine namesIn_foldl (isNamePart_ofList (by decide)) _ fun x hx t ht => ?_
  exact ht.column (hstems x hx) _ _ _ _

theorem TableStatistics.named (h : table.Describes d) : Named ["innodb_table_stats"] d.name :=
  namesIn.named h

theorem StatementDigests.namesIn : NamesIn perfSchema table := by
  have hstart : IsNamePart "events_statements_" := isNamePart_ofList (by decide)
  have hstems : ∀ x ∈ columns, IsNamePart x.2.1 := by
    intro x hx
    simp only [columns, List.mem_cons, List.not_mem_nil, or_false] at hx
    rcases hx with rfl | rfl | rfl | rfl | rfl | rfl | rfl | rfl | rfl | rfl | rfl | rfl <;>
      exact isNamePart_ofList (by decide)
  refine namesIn_foldl isNamePart_perfSchema _ fun x hx t ht => ?_
  exact ht.column (hstart.append (hstems x hx)) _ _ _ _

theorem StatementDigests.named (h : table.Describes d) : Named [perfSchema] d.name :=
  namesIn.named h

theorem FileEvents.named (h : Describes d) : Named [perfSchema] d.name := by
  simp only [Describes, List.mem_cons, List.not_mem_nil, or_false] at h
  rcases h with rfl | rfl | rfl <;>
    exact named_describe List.mem_cons_self isNamePart_perfSchema
      (isNamePart_ofList (by decide)) _ _ _

theorem GroupMembers.named (h : Describes d) : Named [perfSchema] d.name := by
  obtain ⟨labels, rfl⟩ := h
  exact named_describe List.mem_cons_self isNamePart_perfSchema
    (isNamePart_ofList (by decide)) _ _ _

end Collector

namespace QueryCollector

variable {c : QueryCollector} {d : Desc}

theorem named_of_describes (h : Describes c.scraper.name d) : Named c.subsystems d.name := by
  cases c with
  | globalStatus => exact GlobalStatus.named h
  | globalVariables => exact GlobalVariables.named h
  | binaryLogs => exact BinaryLogs.named h
  | replicaStatus => exact ReplicaStatus.named h
  | heartbeat => exact Heartbeat.named h
  | processlist => exact Processlist.named h
  | tableSizes => exact TableSizes.named h
  | pageCompression => exact PageCompression.named h
  | responseTime => exact ResponseTime.named h
  | tableStatistics => exact TableStatistics.named h
  | statementDigests => exact StatementDigests.named h
  | fileEvents => exact FileEvents.named h
  | groupMembers => exact GroupMembers.named h

/-- **Every metric is named.** Of whatever rows a collector makes a sample, and whatever a scrape
emits, the name of the metric begins with the exporter and a subsystem and goes on behind them, all
in small letters, digits and underscores. -/
theorem named_of_makes (c : QueryCollector) :
    (∀ rows s, c.Makes rows s → Named c.subsystems s.desc.name) ∧
    ∀ visits v, ∀ s ∈ (c.scraper.visit (c.scraper.keptAfter visits) v).emitted,
      Named c.subsystems s.desc.name := by
  have hmade : ∀ rows s, c.Makes rows s → Named c.subsystems s.desc.name := fun _ _ h =>
    named_of_describes (describes_of_makes h)
  refine ⟨hmade, fun visits v s hs => ?_⟩
  obtain ⟨_, _, rows, _, hmakes⟩ := answered_of_mem_emitted visits v hs
  exact hmade rows s hmakes

/-- A replica with a column of its own, in letters that no name may have. -/
def foreign : Row := ⟨["Über/unter"], [some (Utf8.encode "Connecting")]⟩

open ReplicaStatus in
theorem samples_foreign : (ReplicaStatus.samples [] [foreign]).1 =
    .ok [⟨newDesc "Über/unter", ["", "", "", ""], .scalar zero⟩] := by
  have htext : trimmedText (Utf8.encode "Connecting") = some "Connecting" := by decide
  have hcolumn : isLabelColumn "Über/unter" = false := by decide
  have hlabels : labelValues foreign = ["", "", "", ""] := by decide
  have hmeasured : measured foreign = [("Über/unter", zero)] := by
    simp [measured, foreign, Row.pairs, hcolumn, valueOf, htext]
  simp only [ReplicaStatus.samples, rowsSamples, hmeasured, hlabels]
  rfl

theorem named_of_makes_foreign : ∃ s, replicaStatus.Makes [foreign] s ∧
    s.desc.name = "mysql_slave_status__ber_and_unter" ∧ Named ["slave_status"] s.desc.name := by
  have hmakes : replicaStatus.Makes [foreign]
      ⟨ReplicaStatus.newDesc "Über/unter", ["", "", "", ""], .scalar zero⟩ :=
    ⟨[], .new "" [], _, samples_foreign, by simp⟩
  exact ⟨_, hmakes, by decide, (named_of_makes replicaStatus).1 [foreign] _ hmakes⟩

end QueryCollector
end MysqlMetrics
