import MysqlMetrics.Proofs.Collector.Builtin
import MysqlMetrics.Proofs.Naming
import MysqlMetrics.Proofs.Registry
import MysqlMetrics.Proofs.Scrape.Reports
/-!
# Names and kinds of the collectors' metrics

Every metric of a built-in collector has a name, which is none of the names of reports, and all but
those of five collectors have a kind (`Fits`). The five (`generic`) make metrics of whatever keys or
columns the server has, and leave these untyped. A name that is made is known by how it begins.
-/
namespace MysqlMetrics

open Collector

namespace Collector

theorem reachable_defaultRegistry (usage : SelfUsage.Usage) :
    (defaultRegistry usage).Reachable IsBuiltin :=
  Registry.reachable_registryOf fun p hp => ⟨usage, List.mem_map.2 ⟨p, hp, rfl⟩⟩

/-- The collectors that make metrics of what they do not know. -/
def generic : List String :=
  ["global_status", "slave_status", "info_schema.innodb_cmp", "mysql.innodb_table_stats",
   "perf_schema.eventsstatements"]

/-- The names that no collector may use: the empty one, and those of reports. -/
def reserved : List String := "" :: Meta.reports.map (·.name)

/-- A descriptor has a name of its own, and a kind unless the collector makes metrics of what it
does not know. -/
def Fits (collector : String) (d : Desc) : Prop :=
  d.name ∉ reserved ∧ (d.kind = .untyped → collector ∈ generic)

instance (collector : String) (d : Desc) : Decidable (Fits collector d) :=
  inferInstanceAs (Decidable (_ ∧ _))

variable {d : Desc} {collector start : String}

theorem Fits.name_ne_empty (h : Fits collector d) : d.name ≠ "" := fun he =>
  h.1 (by simp [he, reserved])

theorem Fits.name_ne_report (h : Fits collector d) {x : Desc} (hx : x ∈ Meta.reports) :
    d.name ≠ x.name := fun he =>
  h.1 (he ▸ List.mem_cons_of_mem _ (List.mem_map_of_mem hx))

/-- No reserved name begins so. -/
def Free (start : String) : Prop := ∀ n ∈ reserved, ¬ start.toList <+: n.toList

instance (start : String) : Decidable (Free start) := inferInstanceAs (Decidable (∀ _ ∈ _, _))

theorem fits_of_isPrefix (hf : Free start) (hs : start.toList <+: d.name.toList)
    (hk : d.kind = .untyped → collector ∈ generic) : Fits collector d :=
  ⟨fun hn => hf _ hn hs, hk⟩

theorem fits_describe {subsystem stem help : String} {kind : Kind} {labels : List String}
    (hf : Free (Naming.root ++ "_" ++ subsystem)) (hs : subsystem ≠ "")
    (hk : kind = .untyped → collector ∈ generic) :
    Fits collector (describe subsystem stem help kind labels) :=
  fits_of_isPrefix hf (Naming.isPrefix_join (show Naming.root ≠ "" by decide) hs stem) hk

theorem fits_of_dispatch {t : Dispatch} (hf : Free t.stem) (hg : collector ∈ generic)
    (hk : ∀ p ∈ t.known, Fits collector p.2.desc) (hd : t.Describes d) : Fits collector d := by
  rcases hd with ⟨p, hp, rfl⟩ | ⟨column, rfl⟩
  · exact hk p hp
  · refine fits_of_isPrefix hf ?_ fun _ => hg
    simp [Dispatch.genericDesc, List.append_assoc]

/-! ## The collectors -/

theorem GlobalStatus.fits (h : Describes d) : Fits "global_status" d := by
  rcases h with h | ⟨key, rfl⟩
  · revert d
    decide
  · exact fits_describe (by decide) (by decide) (by decide)

theorem GlobalVariables.fits (h : Describes d) : Fits "global_variables" d := by
  rcases h with h | ⟨key, rfl⟩
  · revert d
    decide
  · exact fits_describe (by decide) (by decide) (by decide)

theorem BinaryLogs.fits : ∀ d, Describes d → Fits "binlog_size" d := by
  unfold Describes
  decide

theorem ReplicaStatus.fits (h : Describes d) : Fits "slave_status" d := by
  obtain ⟨column, rfl⟩ := h
  exact fits_describe (by decide) (by decide) (by decide)

theorem Heartbeat.fits : ∀ d, Describes d → Fits "heartbeat" d := by
  unfold Describes
  decide

theorem Processlist.fits : ∀ d, Describes d → Fits "info_schema.processlist" d := by
  unfold Describes
  decide

theorem TableSizes.fits : ∀ d, Describes d → Fits "info_schema.tables" d := by
  unfold Describes
  decide

theorem FileEvents.fits : ∀ d, Describes d → Fits "perf_schema.file_events" d := by
  unfold Describes
  decide

theorem ResponseTime.fits (h : Describes d) : Fits "info_schema.query_response_time" d := by
  obtain ⟨p, -, rfl⟩ := h
  exact fits_describe (by decide) (by decide) (by decide)

theorem GroupMembers.fits (h : Describes d) : Fits "perf_schema.replication_group_members" d := by
  obtain ⟨labels, rfl⟩ := h
  exact fits_describe (by decide) (by decide) (by decide)

theorem SelfUsage.fits (h : Describes d) : Fits collector d := by
  obtain ⟨stem, help, kind, rfl, hk⟩ := h
  exact fits_describe (by decide) (by decide) fun e => absurd e hk

theorem PageCompression.fits (h : table.Describes d) : Fits "info_schema.innodb_cmp" d :=
  fits_of_dispatch (by decide) (by decide) (by decide) h

theorem TableStatistics.fits (h : table.Describes d) : Fits "mysql.innodb_table_stats" d :=
  fits_of_dispatch (by decide) (by decide) (by decide) h

theorem StatementDigests.fits (h : table.Describes d) : Fits "perf_schema.eventsstatements" d :=
  fits_of_dispatch (by decide) (by decide) (by decide) h

theorem fits_of_describes (h : Describes collector d) : Fits collector d := by
  unfold Describes at h
  split at h
  · exact GlobalStatus.fits h
  · exact GlobalVariables.fits h
  · exact BinaryLogs.fits d h
  · exact ReplicaStatus.fits h
  · exact Heartbeat.fits d h
  · exact Processlist.fits d h
  · exact TableSizes.fits d h
  · exact PageCompression.fits h
  · exact ResponseTime.fits h
  · exact TableStatistics.fits h
  · exact StatementDigests.fits h
  · exact FileEvents.fits d h
  · exact GroupMembers.fits h
  · exact SelfUsage.fits h
  · exact SelfUsage.fits h
  · exact h.elim

end Collector
end MysqlMetrics
