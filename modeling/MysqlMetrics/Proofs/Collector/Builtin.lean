import MysqlMetrics.Collector.Builtin
import MysqlMetrics.Proofs.Collector.Behavior
/-!
# How the collectors behave

Each collector has descriptors of its own (`Describes`), some fixed and some made for what the
server answers, and emits samples under no others. It fails when one of its queries is refused for
another reason than that the server does not have what is asked for. Those that depart from this
say which answers are fatal to them (`Fatal`).
-/
namespace MysqlMetrics.Collector

namespace GlobalStatus

def Describes (d : Desc) : Prop :=
  d ∈ rules.map (·.desc) ++ [pages, dirtyPages, pageChanges, clusterInfo, clusterLatency] ∨
    ∃ key, d = genericDesc key

theorem rules_spec : ∀ rule ∈ rules,
    rule.desc.kind.isScalar = true ∧ rule.desc.labels.length = 1 := by decide

theorem made_sampleOf {key : String} {raw : Bytes} {x : Except MetricError Sample}
    (h : sampleOf key raw = some x) : Made Describes x := by
  unfold sampleOf at h
  split at h
  · unfold latencySample at h
    split at h
    · cases h; exact made_ofSummary (.inl (by simp)) rfl rfl
    · cases h
  · obtain ⟨value, -, h⟩ := Option.bind_eq_some_iff.1 h
    split at h
    · unfold pageSample at h
      split at h
      · cases h; exact made_scalar (.inl (by simp)) rfl rfl
      · split at h
        · cases h; exact made_scalar (.inl (by simp)) rfl rfl
        · split at h
          · cases h
          · cases h; exact made_scalar (.inl (by simp)) rfl rfl
    · split at h
      · rename_i rule label hb
        cases h
        have hmem := (LabelRule.best_eq_some hb).1
        obtain ⟨hk, hl⟩ := rules_spec rule hmem
        exact made_scalar (.inl (List.mem_append_left _ (List.mem_map_of_mem hmem))) hk hl.symm
      · cases h; exact made_scalar (.inr ⟨key, rfl⟩) rfl rfl

theorem made_clusterSample {pairs : List (String × Bytes)} :
    ∀ x ∈ (clusterSample pairs).toList, Made (· = clusterInfo) x := by
  intro x hx
  obtain ⟨values, hv, rfl⟩ := Option.map_eq_some_iff.1 (Option.mem_toList.1 hx)
  have hl : values.length = clusterKeys.length := by
    simp only [clusterKeys, List.mapM_cons, List.mapM_nil, Option.bind_eq_bind,
      Option.bind_eq_some_iff, Option.pure_def, Option.some.injEq] at hv
    obtain ⟨a, -, _, ⟨b, -, _, ⟨c, -, _, rfl, rfl⟩, rfl⟩, rfl⟩ := hv
    rfl
  exact made_scalar rfl rfl hl

theorem exists_samples (rows : List Row) :
    ∃ ss, samples rows = .ok ss ∧ ∀ s ∈ ss, Describes s.desc := by
  refine exists_mapM_of_made fun x hx => ?_
  rcases List.mem_append.1 hx with hx | hx
  · obtain ⟨p, -, hp⟩ := List.mem_filterMap.1 hx
    exact made_sampleOf hp
  · obtain ⟨s, rfl, hs⟩ := made_clusterSample x hx
    exact ⟨s, rfl, .inl (by simp [hs])⟩

theorem behaves (args : ArgSet) (info : ServerInfo) :
    (scraper.task args info).Behaves Describes (fun _ => QueryResult.Refused) False :=
  behaves_fetch (fun _ => trivial) fun rows => behaves_deliver_of_exists (exists_samples rows)

end GlobalStatus

namespace GlobalVariables

def Describes (d : Desc) : Prop :=
  d ∈ [versionInfo, isolation, clusterInfo, cacheSize] ∨ ∃ key, d = genericDesc key

theorem made_infoSamples (text : String → Option String) :
    ∀ x ∈ infoSamples text, Made Describes x := by
  intro x hx
  simp only [infoSamples, List.mem_append, List.mem_singleton] at hx
  rcases hx with ((rfl | hx) | hx) | hx
  · exact made_scalar (.inl (by simp)) rfl rfl
  · exact made_of_mem_toList hx fun _ => made_scalar (.inl (by simp)) rfl rfl
  · exact made_of_mem_toList hx fun _ => made_scalar (.inl (by simp)) rfl rfl
  · exact made_of_mem_toList hx fun _ => made_scalar (.inl (by simp)) rfl rfl

theorem made_numberSample {key : String} {raw : Bytes} {x : Except MetricError Sample}
    (h : numberSample key raw = some x) : Made (· = genericDesc key) x := by
  unfold numberSample at h
  split at h
  · cases h
  · obtain ⟨value, -, rfl⟩ := Option.map_eq_some_iff.1 h
    exact made_scalar rfl rfl rfl

theorem exists_samples (rows : List Row) :
    ∃ ss, samples rows = .ok ss ∧ ∀ s ∈ ss, Describes s.desc := by
  refine exists_mapM_of_made fun x hx => ?_
  rcases List.mem_append.1 hx with hx | hx
  · obtain ⟨p, -, hp⟩ := List.mem_filterMap.1 hx
    obtain ⟨s, rfl, hs⟩ := made_numberSample hp
    exact ⟨s, rfl, .inr ⟨_, hs⟩⟩
  · exact made_infoSamples _ x hx

theorem behaves (args : ArgSet) (info : ServerInfo) :
    (scraper.task args info).Behaves Describes (fun _ => QueryResult.Refused) False :=
  behaves_fetch (fun _ => trivial) fun rows => behaves_deliver_of_exists (exists_samples rows)

end GlobalVariables

namespace BinaryLogs

def Describes (d : Desc) : Prop := d ∈ [sizeDesc, filesDesc, numberDesc]

/-- A server has to tell whether it writes binary logs, but may refuse to list them. -/
def Fatal (sql : String) : QueryResult → Prop
  | .rows _ => False
  | .failed code => sql = switchQuery ∨ code ∉ featureAbsentCodes

theorem exists_samples (rows : List Row) :
    ∃ ss, samples rows = .ok ss ∧ ∀ s ∈ ss, Describes s.desc := by
  refine exists_mapM_of_made fun x hx => ?_
  simp only [List.mem_append, List.mem_cons, List.not_mem_nil, or_false] at hx
  rcases hx with (rfl | rfl) | hx
  · exact made_scalar (by simp [Describes]) rfl rfl
  · exact made_scalar (by simp [Describes]) rfl rfl
  · exact made_of_mem_toList hx fun _ => made_scalar (by simp [Describes]) rfl rfl

theorem behaves (args : ArgSet) (info : ServerInfo) :
    (scraper.task args info).Behaves Describes Fatal False := by
  refine behaves_fetch (fun _ => .inl rfl) fun answer => ?_
  split
  · have hne : query ≠ switchQuery := by decide
    exact behaves_fetchOrAbsent (fun _ => or_iff_right hne) fun rows =>
      behaves_deliver_of_exists (exists_samples rows)
  · exact id

end BinaryLogs

namespace ReplicaStatus

def Describes (d : Desc) : Prop := ∃ column, d = newDesc column

theorem descFor_spec {cache : DescCache} (h : cache.Of Describes) (column : String) :
    Describes (descFor cache column).1 ∧ (descFor cache column).2.Of Describes := by
  unfold descFor
  dsimp only
  split
  · rename_i hf
    exact ⟨h _ (SortedTable.mem_of_find? hf), h⟩
  · refine ⟨⟨column, rfl⟩, fun p hp => ?_⟩
    rcases SortedTable.mem_insert hp with rfl | hp
    · exact ⟨column, rfl⟩
    · exact h p hp

theorem made_of_describes {d : Desc} (h : Describes d) (row : Row) {x : Float} :
    Made Describes (Sample.scalar d x (labelValues row)) := by
  obtain ⟨column, rfl⟩ := h
  exact made_scalar ⟨column, rfl⟩ rfl rfl

theorem columnSamples_spec (row : Row) {cache : DescCache} (cs : List (String × Float))
    (h : cache.Of Describes) :
    (∀ x ∈ (columnSamples (labelValues row) cache cs).1, Made Describes x) ∧
      (columnSamples (labelValues row) cache cs).2.Of Describes := by
  induction cs generalizing cache with
  | nil => exact ⟨by simp [columnSamples], h⟩
  | cons c cs ih =>
    obtain ⟨hd, hc⟩ := descFor_spec h c.1
    obtain ⟨hs, hc'⟩ := ih hc
    refine ⟨?_, hc'⟩
    intro y hy
    have hy : y ∈ _ :: (columnSamples (labelValues row) _ cs).1 := hy
    rcases List.mem_cons.1 hy with rfl | hy
    · exact made_of_describes hd row
    · exact hs y hy

theorem rowsSamples_spec {cache : DescCache} (rows : List Row) (h : cache.Of Describes) :
    (∀ x ∈ (rowsSamples cache rows).1, Made Describes x) ∧
      (rowsSamples cache rows).2.Of Describes := by
  induction rows generalizing cache with
  | nil => exact ⟨by simp [rowsSamples], h⟩
  | cons row rows ih =>
    obtain ⟨hs, hc⟩ := columnSamples_spec row (measured row) h
    obtain ⟨hs', hc'⟩ := ih hc
    refine ⟨?_, hc'⟩
    intro y hy
    have hy : y ∈ _ ++ (rowsSamples _ rows).1 := hy
    rcases List.mem_append.1 hy with hy | hy
    · exact hs y hy
    · exact hs' y hy

theorem samples_spec {cache : DescCache} (h : cache.Of Describes) (rows : List Row) :
    (∃ ss, (samples cache rows).1 = .ok ss ∧ ∀ s ∈ ss, Describes s.desc) ∧
      (samples cache rows).2.Of Describes := by
  obtain ⟨hs, hc⟩ := rowsSamples_spec rows h
  exact ⟨exists_mapM_of_made hs, hc⟩

theorem behaves (args : ArgSet) (info : ServerInfo) :
    (scraper.task args info).Behaves Describes (fun _ => QueryResult.Grave) False := by
  refine behaves_fetchOrAbsent (fun _ => .rfl) fun rows cache hc => ?_
  obtain ⟨hs, hc'⟩ := samples_spec hc rows
  exact ⟨hc', behaves_deliver_of_exists hs⟩

end ReplicaStatus

namespace Heartbeat

def Describes (d : Desc) : Prop := d ∈ [stored, now]

theorem exists_samples (rows : List Row) :
    ∃ ss, samples rows = .ok ss ∧ ∀ s ∈ ss, Describes s.desc := by
  refine exists_mapM_of_made fun x hx => ?_
  obtain ⟨row, -, hx⟩ := List.mem_flatMap.1 hx
  unfold rowSamples at hx
  split at hx
  · simp only [List.mem_cons, List.not_mem_nil, or_false] at hx
    rcases hx with rfl | rfl <;> exact made_scalar (by simp [Describes]) rfl rfl
  · cases hx

theorem behaves (args : ArgSet) (info : ServerInfo) :
    (scraper.task args info).Behaves Describes (fun _ => QueryResult.Grave) False :=
  behaves_fetchOrAbsent (fun _ => .rfl) fun rows => behaves_deliver_of_exists (exists_samples rows)

end Heartbeat

namespace Processlist

def Describes (d : Desc) : Prop := d ∈ [threads, seconds, byUser, byHost]

/-- What is counted is counted under the key of a group. -/
theorem mem_total {α : Type} [Ord α] {key : Group → α} {measure : Group → Float}
    {groups : List Group} : ∀ p ∈ total key measure groups, ∃ g, p.1 = key g := by
  unfold total
  refine List.foldlRecOn groups _
    (motive := fun t : SortedTable α Float => ∀ p ∈ t, ∃ g, p.1 = key g) (by simp)
    fun t ht g _ p hp => ?_
  rcases SortedTable.mem_upsert hp with ⟨_, rfl⟩ | hp
  · exact ⟨g, rfl⟩
  · exact ht p hp

theorem made_labelled {d : Desc} (h : Describes d) (hk : d.kind.isScalar = true)
    (hl : 1 = d.labels.length) (t : SortedTable String Float) :
    ∀ x ∈ labelled d t, Made Describes x := by
  intro x hx
  obtain ⟨p, -, rfl⟩ := List.mem_map.1 hx
  exact made_scalar h hk hl

theorem made_stateSamples (groups : List Group) :
    ∀ x ∈ stateSamples groups, Made Describes x := by
  intro x hx
  obtain ⟨⟨⟨labels, n⟩, q⟩, hp, hx⟩ := List.mem_flatMap.1 hx
  obtain ⟨g, hg⟩ := mem_total _ (List.of_mem_zip hp).1
  obtain rfl : labels = [g.command, g.state] := hg
  simp only [List.mem_cons, List.not_mem_nil, or_false] at hx
  rcases hx with rfl | rfl <;> exact made_scalar (by simp [Describes]) rfl rfl

theorem exists_samples (args : ArgSet) (rows : List Row) :
    ∃ ss, samples args rows = .ok ss ∧ ∀ s ∈ ss, Describes s.desc := by
  refine exists_mapM_of_made fun x hx => ?_
  rcases List.mem_append.1 hx with hx | hx
  · rcases List.mem_append.1 hx with hx | hx
    · exact made_stateSamples _ x hx
    · split at hx
      · exact made_labelled (by simp [Describes]) rfl rfl _ x hx
      · cases hx
  · split at hx
    · exact made_labelled (by simp [Describes]) rfl rfl _ x hx
    · cases hx

theorem behaves (args : ArgSet) (info : ServerInfo) :
    (scraper.task args info).Behaves Describes (fun _ => QueryResult.Grave) False :=
  behaves_fetchOrAbsent (fun _ => .rfl) fun rows =>
    behaves_deliver_of_exists (exists_samples args rows)

end Processlist

namespace TableSizes

def Describes (d : Desc) : Prop := d ∈ [versionDesc, rowsDesc, sizeDesc]

theorem exists_samples (rows : List Row) :
    ∃ ss, samples rows = .ok ss ∧ ∀ s ∈ ss, Describes s.desc := by
  refine exists_mapM_of_made fun x hx => ?_
  obtain ⟨row, -, hx⟩ := List.mem_flatMap.1 hx
  rcases List.mem_append.1 hx with hx | hx
  · rcases List.mem_append.1 hx with hx | hx
    · exact made_of_mem_toList hx fun _ => made_scalar (by simp [Describes]) rfl rfl
    · exact made_of_mem_toList hx fun _ => made_scalar (by simp [Describes]) rfl rfl
  · obtain ⟨⟨column, component⟩, -, hp⟩ := List.mem_filterMap.1 hx
    obtain ⟨bytes, -, rfl⟩ := Option.map_eq_some_iff.1 hp
    exact made_scalar (by simp [Describes]) rfl rfl

theorem behaves (args : ArgSet) (info : ServerInfo) :
    (scraper.task args info).Behaves Describes (fun _ => QueryResult.Grave) False :=
  behaves_fetchOrAbsent (fun _ => .rfl) fun rows => behaves_deliver_of_exists (exists_samples rows)

end TableSizes

namespace PageCompression

theorem exists_samples (rows : List Row) :
    ∃ ss, samples rows = .ok ss ∧ ∀ s ∈ ss, table.Describes s.desc :=
  table.exists_samples (by decide) rows

theorem behaves (args : ArgSet) (info : ServerInfo) :
    (scraper.task args info).Behaves table.Describes (fun _ => QueryResult.Grave) False :=
  behaves_fetchOrAbsent (fun _ => .rfl) fun rows => behaves_deliver_of_exists (exists_samples rows)

end PageCompression

namespace TableStatistics

theorem exists_samples (rows : List Row) :
    ∃ ss, samples rows = .ok ss ∧ ∀ s ∈ ss, table.Describes s.desc :=
  table.exists_samples (by decide) rows

theorem behaves (args : ArgSet) (info : ServerInfo) :
    (scraper.task args info).Behaves table.Describes (fun _ => QueryResult.Grave) False :=
  behaves_fetchOrAbsent (fun _ => .rfl) fun rows => behaves_deliver_of_exists (exists_samples rows)

end TableStatistics

namespace StatementDigests

theorem exists_samples (rows : List Row) :
    ∃ ss, samples rows = .ok ss ∧ ∀ s ∈ ss, table.Describes s.desc :=
  table.exists_samples (by decide +kernel) rows

theorem behaves (args : ArgSet) (info : ServerInfo) :
    (scraper.task args info).Behaves table.Describes (fun _ => QueryResult.Grave) False :=
  behaves_fetchOrAbsent (fun _ => .rfl) fun rows => behaves_deliver_of_exists (exists_samples rows)

end StatementDigests

namespace ResponseTime

def Describes (d : Desc) : Prop := ∃ p ∈ sources, d = descFor p.1 p.2

/-- Only the question whether there are statistics may fail: tables may be missing, and so it does
not matter why one cannot be read. -/
def Fatal (sql : String) : QueryResult → Prop
  | .rows _ => False
  | .failed code => sql = switchQuery ∧ code ∉ featureAbsentCodes

theorem not_fatal_source : ∀ p ∈ sources, ∀ answer, ¬ Fatal (queryFor p.1) answer := by
  have hne : ∀ p ∈ sources, queryFor p.1 ≠ switchQuery := by decide
  intro p hp answer hf
  cases answer with
  | rows rows => exact hf
  | failed code => exact hne p hp hf.1

theorem made_sample {p : String × String} (hp : p ∈ sources) (rows : List Row) :
    Made Describes (sample (descFor p.1 p.2) rows) := made_ofHistogram ⟨p, hp, rfl⟩ rfl rfl

theorem behaves_readTables {tables : List (String × String)} (h : ∀ p ∈ tables, p ∈ sources) :
    (readTables tables).Behaves Describes Fatal False := by
  induction tables with
  | nil => exact id
  | cons p rest ih =>
    obtain ⟨table, stem⟩ := p
    have ih := ih fun p hp => h p (List.mem_cons_of_mem _ hp)
    have hsource := h (table, stem) (by simp)
    refine Task.behaves_query fun answer => ?_
    rw [eq_false (not_fatal_source _ hsource answer)]
    cases answer with
    | failed code => exact ih
    | rows rows =>
      cases rows with
      | nil => exact ih
      | cons row rows =>
        obtain ⟨s, hs, hP⟩ := made_sample hsource (row :: rows)
        dsimp only
        rw [hs]
        exact ⟨hP, ih⟩

theorem behaves (args : ArgSet) (info : ServerInfo) :
    (scraper.task args info).Behaves Describes Fatal False := by
  refine behaves_fetchOrAbsent (fun _ => and_iff_right rfl) fun answer => ?_
  split
  · exact behaves_readTables fun _ h => h
  · exact id

end ResponseTime

namespace FileEvents

def Describes (d : Desc) : Prop := d ∈ [events, seconds, bytes]

theorem exists_samples (rows : List Row) :
    ∃ ss, samples rows = .ok ss ∧ ∀ s ∈ ss, Describes s.desc := by
  refine exists_mapM_of_made fun x hx => ?_
  obtain ⟨row, -, hx⟩ := List.mem_flatMap.1 hx
  unfold rowSamples at hx
  split at hx
  · cases hx
  · obtain ⟨mode, -, hx⟩ := List.mem_flatMap.1 hx
    rcases List.mem_append.1 hx with hx | hx
    · rcases List.mem_append.1 hx with hx | hx
      · exact made_of_mem_toList hx fun _ => made_scalar (by simp [Describes]) rfl rfl
      · exact made_of_mem_toList hx fun _ => made_scalar (by simp [Describes]) rfl rfl
    · exact made_of_mem_toList hx fun _ => made_scalar (by simp [Describes]) rfl rfl

theorem behaves (args : ArgSet) (info : ServerInfo) :
    (scraper.task args info).Behaves Describes (fun _ => QueryResult.Grave) False :=
  behaves_fetchOrAbsent (fun _ => .rfl) fun rows => behaves_deliver_of_exists (exists_samples rows)

end FileEvents

namespace GroupMembers

def Describes (d : Desc) : Prop := ∃ labels, d = descFor labels

/-- Some row does not have a cell for each column of the first. -/
def Ragged : List Row → Prop
  | [] => False
  | first :: rows => ∃ row ∈ first :: rows, row.pairs.length ≠ first.columns.length

/-- Every column is a label, and needs a value. -/
def Fatal (_sql : String) : QueryResult → Prop
  | .rows rows => Ragged rows
  | .failed code => code ∉ featureAbsentCodes

/-- The rows of one result are not ragged. -/
theorem not_ragged_rowsOf {columns : List String} {cells : List (List Cell)}
    (h : ∀ cs ∈ cells, cs.length = columns.length) : ¬ Ragged (rowsOf columns cells) := by
  cases cells with
  | nil => exact id
  | cons first rest =>
    rintro ⟨row, hrow, hne⟩
    obtain ⟨cs, hcs, rfl⟩ := List.mem_map.1 (show row ∈ rowsOf columns (first :: rest) from hrow)
    exact hne (by simp [Row.pairs, h cs hcs])

theorem desc_spec {cache : DescCache} (h : cache.Of Describes) (labels : List String) :
    Describes (desc cache labels).1 ∧ (desc cache labels).1.labels = labels ∧
      (desc cache labels).2.Of Describes := by
  have hnew : DescCache.Of Describes (SortedTable.insert slot (descFor labels) cache) := by
    intro p hp
    rcases SortedTable.mem_insert hp with rfl | hp
    · exact ⟨labels, rfl⟩
    · exact h p hp
  unfold desc
  split
  · rename_i d hf
    split
    · rename_i hl
      exact ⟨h _ (SortedTable.mem_of_find? hf), hl, h⟩
    · exact ⟨⟨labels, rfl⟩, rfl, hnew⟩
  · exact ⟨⟨labels, rfl⟩, rfl, hnew⟩

/-- A sample is made of a row if the row has a value for each label. -/
theorem made_row {d : Desc} (h : Describes d) {row : Row}
    (hl : row.pairs.length = d.labels.length) :
    Made (· = d) (Sample.scalar d one (labelValues row)) := by
  obtain ⟨labels, rfl⟩ := h
  exact made_scalar rfl rfl (by simpa [labelValues] using hl)

theorem exists_row_eq_error {d : Desc} (h : Describes d) {row : Row}
    (hl : row.pairs.length ≠ d.labels.length) :
    ∃ err, Sample.scalar d one (labelValues row) = .error err := by
  obtain ⟨labels, rfl⟩ := h
  refine ⟨_, (if_pos rfl).trans (if_neg fun he => hl ?_)⟩
  simpa [labelValues] using he

variable {cache : DescCache} {rows : List Row}

theorem samples_of (h : cache.Of Describes) (rows : List Row) :
    (samples cache rows).2.Of Describes := by
  cases rows with
  | nil => exact h
  | cons first rows => exact (desc_spec h (first.columns.map Text.asciiLower)).2.2

/-- Of rows that are not ragged samples are made under the columns of the first. -/
theorem exists_samples (h : cache.Of Describes) (hr : ¬ Ragged rows) :
    ∃ ss, (samples cache rows).1 = .ok ss ∧ ∀ s ∈ ss, Describes s.desc ∧
      ∃ first ∈ rows, s.desc.labels = first.columns.map Text.asciiLower := by
  cases rows with
  | nil => exact ⟨[], rfl, by simp⟩
  | cons first rows =>
    obtain ⟨hd, hlabels, -⟩ := desc_spec h (first.columns.map Text.asciiLower)
    have hcount : (desc cache (first.columns.map Text.asciiLower)).1.labels.length =
        first.columns.length := by rw [hlabels, List.length_map]
    have hlen : ∀ row ∈ first :: rows, row.pairs.length = first.columns.length := fun row hrow =>
      Decidable.byContradiction fun hne => hr ⟨row, hrow, hne⟩
    obtain ⟨ss, hss, hdesc⟩ :=
      exists_mapM_of_made fun row hrow => made_row hd ((hlen row hrow).trans hcount.symm)
    refine ⟨ss, hss, fun s hs => ?_⟩
    rw [hdesc s hs]
    exact ⟨hd, first, List.mem_cons_self, hlabels⟩

theorem exists_samples_eq_error (h : cache.Of Describes) (hr : Ragged rows) :
    ∃ err, (samples cache rows).1 = .error err := by
  cases rows with
  | nil => exact hr.elim
  | cons first rows =>
    obtain ⟨row, hrow, hne⟩ := hr
    obtain ⟨hd, hlabels, -⟩ := desc_spec h (first.columns.map Text.asciiLower)
    have hcount : row.pairs.length ≠
        (desc cache (first.columns.map Text.asciiLower)).1.labels.length := by
      rwa [hlabels, List.length_map]
    obtain ⟨err, herr⟩ := exists_row_eq_error hd hcount
    exact exists_mapM_eq_error (f := fun row => Sample.scalar _ one (labelValues row)) hrow herr

theorem behaves (args : ArgSet) (info : ServerInfo) :
    (scraper.task args info).Behaves Describes Fatal False := by
  refine behaves_fetchOrAbsent (fun _ => .rfl) fun rows cache hc => ⟨samples_of hc rows, ?_⟩
  dsimp only
  by_cases hr : Ragged rows
  · obtain ⟨err, herr⟩ := exists_samples_eq_error hc hr
    rw [herr]
    exact hr
  · obtain ⟨ss, hss, hdesc⟩ := exists_samples hc hr
    rw [hss, eq_false (show ¬ Fatal query (.rows rows) from hr)]
    exact behaves_deliver fun s hs => (hdesc s hs).1

end GroupMembers

namespace SelfUsage

def Describes (d : Desc) : Prop :=
  ∃ stem help kind, d = describeOwn stem help kind ∧ kind ≠ .untyped

theorem behaves_process (u : Usage) (args : ArgSet) (info : ServerInfo) :
    ((processScraper u).task args info).Behaves Describes (fun _ => QueryResult.Grave) False := by
  have made (stem help : String) (kind : Kind) (x : Float) (hk : kind.isScalar = true)
      (hu : kind ≠ .untyped) : Made Describes (Sample.scalar (describeOwn stem help kind) x []) :=
    made_scalar ⟨stem, help, kind, rfl, hu⟩ hk rfl
  unfold processScraper
  dsimp only
  split
  · exact id
  · refine behaves_deliver_of_exists (exists_mapM_of_made fun x hx => ?_)
    simp only [processSamples, List.mem_append, List.mem_cons, List.not_mem_nil, or_false] at hx
    rcases hx with ((rfl | rfl | rfl | rfl | rfl) | hx) | hx
    · exact made _ _ _ _ rfl (by decide)
    · exact made _ _ _ _ rfl (by decide)
    · exact made _ _ _ _ rfl (by decide)
    · exact made _ _ _ _ rfl (by decide)
    · exact made _ _ _ _ rfl (by decide)
    · exact made_of_mem_toList hx fun _ => made _ _ _ _ rfl (by decide)
    · exact made_of_mem_toList hx fun _ => made _ _ _ _ rfl (by decide)

theorem behaves_workers (u : Usage) (args : ArgSet) (info : ServerInfo) :
    ((workerScraper u).task args info).Behaves Describes (fun _ => QueryResult.Grave) False := by
  unfold workerScraper
  dsimp only
  refine behaves_deliver_of_exists (exists_mapM_of_made fun x hx => ?_)
  simp only [workerSamples, List.mem_cons, List.not_mem_nil, or_false] at hx
  rcases hx with rfl | rfl | rfl <;>
    exact made_scalar ⟨_, _, .gauge, rfl, by decide⟩ rfl rfl

end SelfUsage

/-! ## All collectors -/

/-- The descriptors of the collector of a name. -/
def Describes : String → Desc → Prop
  | "global_status" => GlobalStatus.Describes
  | "global_variables" => GlobalVariables.Describes
  | "binlog_size" => BinaryLogs.Describes
  | "slave_status" => ReplicaStatus.Describes
  | "heartbeat" => Heartbeat.Describes
  | "info_schema.processlist" => Processlist.Describes
  | "info_schema.tables" => TableSizes.Describes
  | "info_schema.innodb_cmp" => PageCompression.table.Describes
  | "info_schema.query_response_time" => ResponseTime.Describes
  | "mysql.innodb_table_stats" => TableStatistics.table.Describes
  | "perf_schema.eventsstatements" => StatementDigests.table.Describes
  | "perf_schema.file_events" => FileEvents.Describes
  | "perf_schema.replication_group_members" => GroupMembers.Describes
  | "exporter.process" => SelfUsage.Describes
  | "exporter.runtime" => SelfUsage.Describes
  | _ => fun _ => False

/-- The answers to a query that fail the collector of a name: grave refusals, but any refusal of
what is asked about the whole server, and no refusal of a table of response times. -/
def Fatal : String → String → QueryResult → Prop
  | "global_status" => fun _ => QueryResult.Refused
  | "global_variables" => fun _ => QueryResult.Refused
  | "binlog_size" => BinaryLogs.Fatal
  | "info_schema.query_response_time" => ResponseTime.Fatal
  | "perf_schema.replication_group_members" => GroupMembers.Fatal
  | _ => fun _ => QueryResult.Grave

/-- A scraper that the exporter comes with, whatever it is used with. -/
def IsBuiltin (x : Scraper) : Prop := ∃ usage, x ∈ (builtin usage).map (·.1)

/-- Built-in scrapers emit samples under descriptors of their own, and fail by answers that are
fatal to them. -/
theorem behaves_of_isBuiltin {x : Scraper} (h : IsBuiltin x) (args : ArgSet) (info : ServerInfo) :
    (x.task args info).Behaves (Describes x.name) (Fatal x.name) False := by
  obtain ⟨usage, h⟩ := h
  simp only [builtin, List.map_cons, List.map_nil, List.mem_cons, List.not_mem_nil, or_false] at h
  rcases h with rfl | rfl | rfl | rfl | rfl | rfl | rfl | rfl |
      rfl | rfl | rfl | rfl | rfl | rfl | rfl
  · exact GlobalStatus.behaves args info
  · exact GlobalVariables.behaves args info
  · exact BinaryLogs.behaves args info
  · exact ReplicaStatus.behaves args info
  · exact Heartbeat.behaves args info
  · exact Processlist.behaves args info
  · exact TableSizes.behaves args info
  · exact PageCompression.behaves args info
  · exact ResponseTime.behaves args info
  · exact TableStatistics.behaves args info
  · exact StatementDigests.behaves args info
  · exact FileEvents.behaves args info
  · exact GroupMembers.behaves args info
  · exact SelfUsage.behaves_process usage args info
  · exact SelfUsage.behaves_workers usage args info

end MysqlMetrics.Collector
