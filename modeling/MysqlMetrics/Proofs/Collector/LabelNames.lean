import Mathlib
import MysqlMetrics.Proofs.Collector.Samples
import MysqlMetrics.Proofs.Families.Accepted
/-!
# Names of the collectors' labels

The names of labels are written as they are, and the text format does not take every name. Those of
nearly all metrics are fixed, and good (`WellLabelled`). The members of a replication group alone
have the columns of the result for labels, in small letters: these are good exactly if each column
is a name that the format takes, and no two are the same up to letter case
(`wellLabelled_iff_of_makes`).
-/
namespace MysqlMetrics

open Collector

/-! ## Names -/

/-- May a label's name begin so? -/
def isLabelStart (c : Char) : Bool := c.isAlpha || c == '_'

def isLabelChar (c : Char) : Bool := c.isAlphanum || c == '_'

/-- Does the text format take this for the name of a label? -/
def isLabelName (s : String) : Bool :=
  match s.toList with
  | [] => false
  | c :: cs => isLabelStart c && cs.all isLabelChar

/-- All labels have names that the text format takes, and no two have the same. -/
structure WellLabelled (d : Desc) : Prop where
  names : ∀ n ∈ d.labelNames, isLabelName n = true
  nodup : d.labelNames.Nodup

variable {d : Desc}

theorem wellLabelled_iff : WellLabelled d ↔
    (∀ n ∈ d.allLabels, isLabelName n = true) ∧ d.allLabels.Nodup := by
  have hperm := d.labelNames_perm
  constructor
  · intro h
    exact ⟨fun n hn => h.names n (hperm.mem_iff.2 hn), hperm.nodup_iff.1 h.nodup⟩
  · rintro ⟨hnames, hnodup⟩
    exact ⟨fun n hn => hnames n (hperm.mem_iff.1 hn), hperm.nodup_iff.2 hnodup⟩

instance (d : Desc) : Decidable (WellLabelled d) := decidable_of_iff _ wellLabelled_iff.symm

theorem wellLabelled_of_labels {e : Desc} (hc : d.constLabels = e.constLabels)
    (hl : d.labels = e.labels) (h : WellLabelled e) : WellLabelled d := by
  rw [wellLabelled_iff] at h ⊢
  rwa [Desc.allLabels, hc, hl]

/-! ## Letter case -/

theorem toLower_cases (c : Char) : c.toLower = c ∨ c.isAlpha = true ∧ c.toLower.isAlpha = true := by
  by_cases hc : c.isUpper = true
  · have ha : c.isAlpha = true := by simp [Char.isAlpha, hc]
    exact .inr ⟨ha, (Char.isAlpha_toLower_eq_isAlpha c).trans ha⟩
  · exact .inl (Char.toLower_eq_of_not_isUpper hc)

theorem isLabelStart_toLower (c : Char) : isLabelStart c.toLower = isLabelStart c := by
  rcases toLower_cases c with h | ⟨h, h'⟩
  · rw [h]
  · simp [isLabelStart, h, h']

theorem isLabelChar_toLower (c : Char) : isLabelChar c.toLower = isLabelChar c := by
  rcases toLower_cases c with h | ⟨h, h'⟩
  · rw [h]
  · simp [isLabelChar, Char.isAlphanum, h, h']

theorem isLabelName_asciiLower (s : String) : isLabelName (Text.asciiLower s) = isLabelName s := by
  unfold isLabelName Text.asciiLower
  rw [String.toList_ofList]
  cases s.toList with
  | nil => rfl
  | cons c cs =>
    have hrest : isLabelChar ∘ Char.toLower = isLabelChar := funext isLabelChar_toLower
    simp [isLabelStart_toLower, List.all_map, hrest]

/-- Columns that can be labels: names that the format takes, and that differ not only in case. -/
structure LabelColumns (columns : List String) : Prop where
  names : ∀ column ∈ columns, isLabelName column = true
  distinct : columns.Pairwise fun a b => Text.sameIgnoringCase a b = false

theorem wellLabelled_iff_columns {columns : List String} (hc : d.constLabels = [])
    (hl : d.labels = columns.map Text.asciiLower) : WellLabelled d ↔ LabelColumns columns := by
  have hnames : (∀ n ∈ d.allLabels, isLabelName n = true) ↔
      ∀ column ∈ columns, isLabelName column = true := by
    simp [Desc.allLabels, hc, hl, isLabelName_asciiLower]
  have hdistinct : d.allLabels.Nodup ↔
      columns.Pairwise fun a b => Text.sameIgnoringCase a b = false := by
    simp [Desc.allLabels, hc, hl, List.Nodup, List.pairwise_map, Text.sameIgnoringCase]
  rw [wellLabelled_iff, hnames, hdistinct]
  exact ⟨fun h => ⟨h.1, h.2⟩, fun h => ⟨h.names, h.distinct⟩⟩

/-! ## The collectors -/

namespace Collector

theorem GlobalStatus.wellLabelled (h : Describes d) : WellLabelled d := by
  rcases h with h | ⟨key, rfl⟩
  · revert d
    decide
  · exact wellLabelled_of_labels (e := dirtyPages) rfl rfl (by decide)

theorem GlobalVariables.wellLabelled (h : Describes d) : WellLabelled d := by
  rcases h with h | ⟨key, rfl⟩
  · revert d
    decide
  · exact wellLabelled_of_labels (e := cacheSize) rfl rfl (by decide)

theorem BinaryLogs.wellLabelled : ∀ d, Describes d → WellLabelled d := by
  unfold Describes
  decide

theorem ReplicaStatus.wellLabelled (h : Describes d) : WellLabelled d := by
  obtain ⟨column, rfl⟩ := h
  exact wellLabelled_of_labels (e := newDesc "") rfl rfl (by decide)

theorem Heartbeat.wellLabelled : ∀ d, Describes d → WellLabelled d := by
  unfold Describes
  decide

theorem Processlist.wellLabelled : ∀ d, Describes d → WellLabelled d := by
  unfold Describes
  decide

theorem TableSizes.wellLabelled : ∀ d, Describes d → WellLabelled d := by
  unfold Describes
  decide

theorem ResponseTime.wellLabelled (h : Describes d) : WellLabelled d := by
  obtain ⟨p, -, rfl⟩ := h
  exact wellLabelled_of_labels (e := descFor "" "") rfl rfl (by decide)

theorem FileEvents.wellLabelled : ∀ d, Describes d → WellLabelled d := by
  unfold Describes
  decide

end Collector

theorem wellLabelled_of_dispatch {t : Dispatch} (hk : ∀ p ∈ t.known, WellLabelled p.2.desc)
    (hg : WellLabelled (t.genericDesc "")) (hd : t.Describes d) : WellLabelled d := by
  rcases hd with ⟨p, hp, rfl⟩ | ⟨column, rfl⟩
  · exact hk p hp
  · exact wellLabelled_of_labels (e := t.genericDesc "") rfl rfl hg

namespace QueryCollector

variable {c : QueryCollector} {t : ResultSet} {s : Sample}

theorem wellLabelled_of_describes (hc : c ≠ groupMembers) (h : Describes c.scraper.name d) :
    WellLabelled d := by
  cases c with
  | globalStatus => exact GlobalStatus.wellLabelled h
  | globalVariables => exact GlobalVariables.wellLabelled h
  | binaryLogs => exact BinaryLogs.wellLabelled d h
  | replicaStatus => exact ReplicaStatus.wellLabelled h
  | heartbeat => exact Heartbeat.wellLabelled d h
  | processlist => exact Processlist.wellLabelled d h
  | tableSizes => exact TableSizes.wellLabelled d h
  | pageCompression => exact wellLabelled_of_dispatch (by decide) (by decide) h
  | responseTime => exact ResponseTime.wellLabelled h
  | tableStatistics => exact wellLabelled_of_dispatch (by decide) (by decide) h
  | statementDigests => exact wellLabelled_of_dispatch (by decide) (by decide) h
  | fileEvents => exact FileEvents.wellLabelled d h
  | groupMembers => exact absurd rfl hc

/-- The labels of group members are the columns of the result. -/
theorem labels_of_makes (h : groupMembers.Makes t.rows s) :
    s.desc.constLabels = [] ∧ s.desc.labels = t.columns.map Text.asciiLower := by
  obtain ⟨visits, args, ss, hss, hs⟩ := h
  -- kept descriptors are for the same labels: what was met before does not show
  obtain ⟨ss', hss', hdesc⟩ := GroupMembers.exists_samples
    (Scraper.keptAfter_of (isBuiltin groupMembers) visits) (GroupMembers.not_ragged_rowsOf t.width)
  obtain rfl : ss' = ss := Except.ok.inj (hss'.symm.trans hss)
  obtain ⟨⟨labels, hd⟩, row, hrow, hlabels⟩ := hdesc s hs
  obtain ⟨cells, -, rfl⟩ := List.mem_map.1 hrow
  exact ⟨by rw [hd]; rfl, hlabels⟩

/-- **Labels of a sample.** Of every result, all collectors but one make samples whose labels have
different names that the format takes. For group members this is so exactly if each column of the
result is the name of a label, and no two are the same up to letter case. -/
theorem wellLabelled_iff_of_makes (h : c.Makes t.rows s) :
    WellLabelled s.desc ↔ (c = groupMembers → LabelColumns t.columns) := by
  by_cases hc : c = groupMembers
  · subst hc
    obtain ⟨hconst, hlabels⟩ := labels_of_makes h
    rw [wellLabelled_iff_columns hconst hlabels]
    simp
  · have hdesc := wellLabelled_of_describes hc (describes_of_makes h)
    simp [hc, hdesc]

/-- The columns that servers have. -/
example : LabelColumns ["CHANNEL_NAME", "MEMBER_ID", "MEMBER_HOST", "MEMBER_PORT", "MEMBER_STATE",
    "MEMBER_ROLE", "MEMBER_VERSION", "MEMBER_COMMUNICATION_STACK"] :=
  ⟨by decide, by decide⟩

/-- A column with a blank in its name. -/
def spaced : ResultSet :=
  ⟨["CHANNEL NAME", "MEMBER_ID"], [[some (Utf8.encode "c"), some (Utf8.encode "i")]], by decide⟩

/-- The blank is left in the name of the label. -/
theorem not_wellLabelled_spaced : ∃ s, groupMembers.Makes spaced.rows s ∧
    s.desc.labels = ["channel name", "member_id"] ∧ ¬ WellLabelled s.desc := by
  have hmakes : groupMembers.Makes spaced.rows
      ⟨GroupMembers.descFor ["channel name", "member_id"], ["c", "i"], .scalar one⟩ :=
    ⟨[], .new "" [], _, rfl, List.mem_cons_self⟩
  have hname : isLabelName "CHANNEL NAME" = false := by decide
  refine ⟨_, hmakes, rfl, fun h => ?_⟩
  have hvalid := ((wellLabelled_iff_of_makes hmakes).1 h rfl).names _ List.mem_cons_self
  cases hname.symm.trans hvalid

end QueryCollector
end MysqlMetrics
