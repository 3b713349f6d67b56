import MysqlMetrics.Proofs.Lists
import MysqlMetrics.Proofs.Results
import MysqlMetrics.Proofs.Table
import MysqlMetrics.Proofs.Text
import MysqlMetrics.Row.Dispatch
/-!
# What a dispatch table makes of a row

A table is built of label columns and of declarations, and of two declarations of one column the
later holds. Names of columns are compared in three ways: by a key in small letters, by the first
position that matches, and one with another. All come to the same, `Text.sameIgnoringCase`. So the
samples of a row can be told from what was declared alone (`samples_build`), whatever cells the row
lacks and whichever columns it repeats.
-/
namespace MysqlMetrics

open Text (sameIgnoringCase)

/-! ## The text of a column -/

namespace Row

variable {row : Row} {column text : String} {i : Nat}

/-- A position is the first whose column is the one meant. -/
def FirstAt (row : Row) (column : String) (i : Nat) : Prop :=
  (∃ c, row.columns[i]? = some c ∧ sameIgnoringCase c column = true) ∧
    ∀ j < i, ∀ c, row.columns[j]? = some c → sameIgnoringCase c column = false

theorem indexOf_eq_some : row.indexOf column = some i ↔ row.FirstAt column i := by
  unfold indexOf FirstAt
  rw [List.findIdx?_eq_some_iff_getElem]
  constructor
  · rintro ⟨hi, hsame, hbefore⟩
    refine ⟨⟨_, List.getElem?_eq_getElem hi, hsame⟩, fun j hj c hc => ?_⟩
    obtain ⟨hlt, rfl⟩ := List.getElem?_eq_some_iff.1 hc
    simpa using hbefore j hj
  · rintro ⟨⟨c, hc, hsame⟩, hbefore⟩
    obtain ⟨hi, rfl⟩ := List.getElem?_eq_some_iff.1 hc
    exact ⟨hi, hsame, fun j hj => by
      simpa using hbefore j hj _ (List.getElem?_eq_getElem (hj.trans hi))⟩

theorem bytes_eq_some {bs : Bytes} : row.bytes i = some bs ↔ row.cells[i]? = some (some bs) := by
  unfold bytes
  cases row.cells[i]? <;> simp

/-- The cell at the first position of a column is there, and holds a text. -/
def HasText (row : Row) (column text : String) : Prop :=
  ∃ i bs, row.FirstAt column i ∧ row.cells[i]? = some (some bs) ∧ bs = Utf8.encode text

theorem textOf_eq_some : row.textOf column = some text ↔ row.HasText column text := by
  unfold textOf Row.text HasText
  simp only [Option.bind_eq_some_iff, indexOf_eq_some, bytes_eq_some, Utf8.decode_eq_some]
  constructor
  · rintro ⟨i, hi, bs, hbs, htext⟩
    exact ⟨i, bs, hi, hbs, htext⟩
  · rintro ⟨i, bs, hi, hbs, htext⟩
    exact ⟨i, hi, bs, hbs, htext⟩

/-- A row is labelled in a column by its text there, and by the empty text if it has none. -/
def Labelled (row : Row) (column text : String) : Prop :=
  row.HasText column text ∨ text = "" ∧ ∀ t, ¬ row.HasText column t

theorem labelled_textOf (row : Row) (column : String) :
    row.Labelled column ((row.textOf column).getD "") := by
  cases h : row.textOf column with
  | none => exact .inr ⟨rfl, fun t ht => by simp [textOf_eq_some.2 ht] at h⟩
  | some text => exact .inl (textOf_eq_some.1 h)

/-- The text of a column does not depend on the case in which the column is named. -/
theorem textOf_asciiLower (row : Row) (column : String) :
    row.textOf (Text.asciiLower column) = row.textOf column := by
  simp [textOf, indexOf, sameIgnoringCase]

end Row

/-! ## Declared columns -/

namespace Dispatch

/-- A column as it is declared to a table. -/
structure Declaration where
  column : String
  kind : Kind
  stem : String
  help : String
  unit : Float

def declare (d : Dispatch) (c : Declaration) : Dispatch :=
  d.column c.column c.kind c.stem c.help c.unit

/-- A table of label columns to which columns are declared, one after the other. -/
def build (ns subsystem : String) (labelColumns : List (String × String))
    (declared : List Declaration) : Dispatch :=
  declared.foldl declare (new ns subsystem labelColumns)

/-- The declaration that holds for a column is the last one of it. -/
def Holds (declared : List Declaration) (column : String) (c : Declaration) : Prop :=
  ∃ pre post, declared = pre ++ c :: post ∧ sameIgnoringCase c.column column = true ∧
    ∀ c' ∈ post, sameIgnoringCase c'.column column = false

/-- The metric that a declaration asks for. -/
def Declaration.metric (c : Declaration) (stem : String) (labels : List String) : ColumnMetric :=
  ⟨⟨stem ++ "_" ++ c.stem, c.help, c.kind, labels, []⟩, c.unit⟩

variable {ns subsystem column : String} {labelColumns : List (String × String)}
  {declared : List Declaration} {c : Declaration}

/-- Declarations leave the start of all names, and the labels. -/
theorem foldl_declare : ∀ (declared : List Declaration) (d : Dispatch),
    (declared.foldl declare d).stem = d.stem ∧
      (declared.foldl declare d).labelColumns = d.labelColumns
  | [], _ => ⟨rfl, rfl⟩
  | c :: declared, d => foldl_declare declared (d.declare c)

theorem get?_foldl_declare : ∀ (declared : List Declaration) {d : Dispatch},
    SortedTable.Ascending d.known → ∀ column, (declared.foldl declare d).get? column =
        ((declared.reverse.find? fun c => sameIgnoringCase c.column column).map
          (·.metric d.stem d.labelNames)).or (d.get? column)
  | [], _, _, _ => by simp
  | c :: declared, d, ha, column => by
    have hstep : (d.declare c).get? column =
        if sameIgnoringCase c.column column then some (c.metric d.stem d.labelNames)
        else d.get? column := by
      unfold get? declare Dispatch.column
      rw [SortedTable.find?_insert ha]
      by_cases hc : sameIgnoringCase c.column column = true
      · rw [if_pos hc, if_pos (Text.sameIgnoringCase_iff.1 hc).symm]
        rfl
      · rw [if_neg hc, if_neg fun h => hc (Text.sameIgnoringCase_iff.2 h.symm)]
    have ih := get?_foldl_declare declared (d := d.declare c) ha.insert column
    rw [List.foldl_cons, ih, hstep, List.reverse_cons, List.find?_append, Option.map_or,
      Option.or_assoc]
    congr 1
    by_cases hc : sameIgnoringCase c.column column = true <;> simp [hc]

theorem stem_build :
    (build ns subsystem labelColumns declared).stem = Naming.join ns subsystem "" :=
  (foldl_declare declared _).1

theorem labelColumns_build : (build ns subsystem labelColumns declared).labelColumns =
    labelColumns.map fun p => (Text.asciiLower p.1, p.2) :=
  (foldl_declare declared _).2

theorem labelNames_build :
    (build ns subsystem labelColumns declared).labelNames = labelColumns.map (·.2) := by
  rw [labelNames, labelColumns_build, List.map_map]
  rfl

theorem isLabel_build : (build ns subsystem labelColumns declared).isLabel column = false ↔
    ∀ p ∈ labelColumns, sameIgnoringCase p.1 column = false := by
  simp [isLabel, labelColumns_build, sameIgnoringCase]

theorem labelValues_build (row : Row) :
    (build ns subsystem labelColumns declared).labelValues row =
      labelColumns.map fun p => (row.textOf p.1).getD "" := by
  rw [labelValues, labelColumns_build, List.map_map]
  exact List.map_congr_left fun p _ => by simp [Row.textOf_asciiLower]

/-- The last declaration of a column holds, and one that is not declared has none. -/
theorem get?_build (ns subsystem : String) (labelColumns : List (String × String))
    (declared : List Declaration) (column : String) : (∃ c, Holds declared column c ∧
      (build ns subsystem labelColumns declared).get? column =
        some (c.metric (Naming.join ns subsystem "") (labelColumns.map (·.2)))) ∨
    (∀ c ∈ declared, sameIgnoringCase c.column column = false) ∧
      (build ns subsystem labelColumns declared).get? column = none := by
  have hget := get?_foldl_declare declared (d := new ns subsystem labelColumns) .nil column
  have hnames : (build ns subsystem labelColumns []).labelNames = labelColumns.map (·.2) :=
    labelNames_build
  have hnone : (new ns subsystem labelColumns).get? column = none := rfl
  rw [show (new ns subsystem labelColumns).labelNames = _ from hnames, hnone,
    Option.or_none] at hget
  cases hf : declared.reverse.find? fun c => sameIgnoringCase c.column column with
  | none =>
    rw [hf] at hget
    exact .inr ⟨fun c hc => by simpa using List.find?_eq_none.1 hf c (List.mem_reverse.2 hc), hget⟩
  | some c =>
    rw [hf] at hget
    obtain ⟨hsame, pre, post, hrev, hpre⟩ := List.find?_eq_some_iff_append.1 hf
    refine .inl ⟨c, ⟨post.reverse, pre.reverse, ?_, hsame, fun c' hc' => ?_⟩, hget⟩
    · rw [← List.reverse_reverse declared, hrev]
      simp
    · simpa using hpre c' (List.mem_reverse.1 hc')

/-! ## Samples of a row -/

/-- A position of a row holds a number, and its column is no label. -/
structure Counts (labelColumns : List (String × String)) (row : Row) (i : Nat) (column : String)
    (x : Float) : Prop where
  named : row.columns[i]? = some column
  cell : ∃ bs, row.cells[i]? = some (some bs) ∧ Status.ofBytes bs = some x
  noLabel : ∀ p ∈ labelColumns, sameIgnoringCase p.1 column = false

/-- The sample that a number in a column stands for: that of the declaration that holds, in its
unit, or one of no kind that is named for the column. -/
inductive Means (start : String) (declared : List Declaration) (column : String) (x : Float)
    (s : Sample) : Prop
  | known {c : Declaration} (hc : Holds declared column c)
    (name : s.desc.name = start ++ "_" ++ c.stem)
    (kind : s.desc.kind = c.kind) (help : s.desc.help = c.help)
    (reading : s.reading = .scalar (x / c.unit))
  | unknown (hc : ∀ c ∈ declared, sameIgnoringCase c.column column = false)
    (name : s.desc.name = start ++ "_" ++ Naming.stem column) (kind : s.desc.kind = .untyped)
    (help : s.desc.help = "Generic metric from column " ++ column ++ ".")
    (reading : s.reading = .scalar x)

/-- The labels of a sample: all label columns by the names of their labels, in order, each with what
the row is labelled there. -/
structure Labels (labelColumns : List (String × String)) (row : Row) (s : Sample) : Prop where
  names : s.desc.labels = labelColumns.map (·.2)
  values : List.Forall₂ (fun p text => row.Labelled p.1 text) labelColumns s.labels
  noOther : s.desc.constLabels = []

theorem scalar_eq_ok {d : Desc} {x : Float} {labels : List String} (hk : d.kind.isScalar = true)
    (hl : labels.length = d.labels.length) :
    Sample.scalar d x labels = .ok ⟨d, labels, .scalar x⟩ := by
  rw [Sample.scalar, if_pos hk, Sample.build, if_pos hl]

variable {d : Dispatch} {row : Row} {i : Nat} {x : Float} {bs : Bytes} {m : ColumnMetric}
  {labels : List String}

theorem sampleOf_known (hl : d.isLabel column = false) (hx : Status.ofBytes bs = some x)
    (hm : d.get? column = some m) :
    d.sampleOf labels column (some bs) = some (Sample.scalar m.desc (x / m.unit) labels) := by
  simp [sampleOf, hl, hx, hm]

theorem sampleOf_unknown (hl : d.isLabel column = false) (hx : Status.ofBytes bs = some x)
    (hm : d.get? column = none) :
    d.sampleOf labels column (some bs) = some (Sample.scalar (d.genericDesc column) x labels) := by
  simp [sampleOf, hl, hx, hm]

/-- The table has the number of a column as one sample, which is made. -/
theorem sampleOf_build (ns subsystem : String) (hk : ∀ c ∈ declared, c.kind.isScalar = true)
    (h : Counts labelColumns row i column x) :
    ∃ cell s, row.pairs[i]? = some (column, cell) ∧
      (build ns subsystem labelColumns declared).sampleOf
        ((build ns subsystem labelColumns declared).labelValues row) column cell = some (.ok s) ∧
      Means (Naming.join ns subsystem "") declared column x s ∧ Labels labelColumns row s := by
  obtain ⟨hcolumn, ⟨bs, hcell, hx⟩, hlabel⟩ := h
  have hpair : row.pairs[i]? = some (column, some bs) := by
    simp [Row.pairs, List.getElem?_zip_eq_some, hcolumn, hcell]
  have hvalues : List.Forall₂ (fun p text => row.Labelled p.1 text) labelColumns
      (labelColumns.map fun p => (row.textOf p.1).getD "") :=
    List.forall₂_map_right_iff.2 (List.forall₂_same.2 fun p _ => row.labelled_textOf p.1)
  have hmake : ∀ (d : Desc) (value : Float), d.kind.isScalar = true →
      d.labels = labelColumns.map (·.2) → d.constLabels = [] →
      ∃ s, Sample.scalar d value (labelColumns.map fun p => (row.textOf p.1).getD "") = .ok s ∧
        s.desc = d ∧ s.reading = .scalar value ∧ Labels labelColumns row s :=
          fun d value hkind hd hc =>
    ⟨_, scalar_eq_ok hkind (by simp [hd]), rfl, rfl, hd, hvalues, hc⟩
  rcases get?_build ns subsystem labelColumns declared column with ⟨c, hc, hget⟩ | ⟨hc, hget⟩
  · have hkind : c.kind.isScalar = true := by
      obtain ⟨pre, post, rfl, -⟩ := hc
      exact hk c (by simp)
    obtain ⟨s, hs, hdesc, hreading, hlabels⟩ :=
      hmake (c.metric (Naming.join ns subsystem "") (labelColumns.map (·.2))).desc
        (x / c.unit) hkind
        rfl rfl
    refine ⟨some bs, s, hpair, ?_, .known hc ?_ ?_ ?_ hreading, hlabels⟩
    · rw [sampleOf_known (isLabel_build.2 hlabel) hx hget, labelValues_build]
      exact congrArg some hs
    all_goals rw [hdesc]; rfl
  · obtain ⟨s, hs, hdesc, hreading, hlabels⟩ :=
      hmake ((build ns subsystem labelColumns declared).genericDesc column) x
        rfl labelNames_build rfl
    refine ⟨some bs, s, hpair, ?_, .unknown hc ?_ ?_ ?_ hreading, hlabels⟩
    · rw [sampleOf_unknown (isLabel_build.2 hlabel) hx hget, labelValues_build]
      exact congrArg some hs
    · rw [hdesc, genericDesc, stem_build]
    all_goals rw [hdesc]; rfl

theorem counts_of_sampleOf {cell : Cell} {y : Except MetricError Sample}
    (hp : row.pairs[i]? = some (column, cell))
    (hy : (build ns subsystem labelColumns declared).sampleOf labels column cell = some y) :
    ∃ x, Counts labelColumns row i column x := by
  obtain ⟨hcolumn, hcell⟩ := List.getElem?_zip_eq_some.1 hp
  unfold sampleOf at hy
  split at hy
  · cases hy
  · rename_i hl
    obtain ⟨x, hx, -⟩ := Option.map_eq_some_iff.1 hy
    obtain ⟨bs, rfl, hx⟩ := Option.bind_eq_some_iff.1 hx
    exact ⟨x, hcolumn, ⟨bs, hcell, hx⟩, isLabel_build.1 (by simpa using hl)⟩

/-- The samples of a row: one for each position that counts and for no other, in the order of the
positions, each of them what the number there stands for under the labels of the row. -/
def Tell (start : String) (labelColumns : List (String × String)) (declared : List Declaration)
    (row : Row) (samples : List Sample) : Prop :=
  ∃ positions : List Nat, positions.Pairwise (· < ·) ∧
    (∀ i, i ∈ positions ↔ ∃ column x, Counts labelColumns row i column x) ∧
    List.Forall₂ (fun i s => ∃ column x, Counts labelColumns row i column x ∧
      Means start declared column x s ∧ Labels labelColumns row s) positions samples

/-- **The samples of a row.** A table whose columns are declared with kinds of one number makes
samples of every row: one for each position that has a number and is no label, and under the labels
of the row. -/
theorem samples_build (ns subsystem : String) (labelColumns : List (String × String))
    (declared : List Declaration) (hk : ∀ c ∈ declared, c.kind.isScalar = true) (row : Row) :
    ∃ samples, (build ns subsystem labelColumns declared).samples row = .ok samples ∧
      Tell (Naming.join ns subsystem "") labelColumns declared row samples := by
  let t := build ns subsystem labelColumns declared
  obtain ⟨positions, hasc, hmem, hpicked⟩ :=
    exists_positions (fun p : String × Cell => t.sampleOf (t.labelValues row) p.1 p.2) row.pairs
  have hcounts : ∀ i, (∃ p y, row.pairs[i]? = some p ∧
      t.sampleOf (t.labelValues row) p.1 p.2 = some y) ↔
        ∃ column x, Counts labelColumns row i column x := by
    refine fun i => ⟨?_, ?_⟩
    · rintro ⟨⟨column, cell⟩, y, hp, hy⟩
      exact ⟨column, counts_of_sampleOf hp hy⟩
    · rintro ⟨column, x, h⟩
      obtain ⟨cell, s, hp, hs, -⟩ := sampleOf_build ns subsystem hk h
      exact ⟨(column, cell), _, hp, hs⟩
  have hmade := hpicked.imp (S := fun i y => ∃ s, y = .ok s ∧ ∃ column x,
      Counts labelColumns row i column x ∧ Means (Naming.join ns subsystem "") declared column x s ∧
        Labels labelColumns row s) fun i y => by
    rintro ⟨⟨column, cell⟩, hp, hy⟩
    obtain ⟨x, h⟩ := counts_of_sampleOf hp hy
    obtain ⟨cell', s, hp', hs, hmeans, hlabels⟩ := sampleOf_build ns subsystem hk h
    cases hp.symm.trans hp'
    exact ⟨s, Option.some.inj (hy.symm.trans hs), column, x, h, hmeans, hlabels⟩
  obtain ⟨samples, hsamples, hmade⟩ := exists_of_forall₂_ok hmade
  exact ⟨samples, mapM_eq_ok.2 (by rw [List.map_id]; exact hsamples), positions, hasc,
    fun i => (hmem i).trans (hcounts i), hmade⟩

/-- A column of page compression, declared twice. -/
def compressions : List Declaration :=
  [⟨"compress_ops", .gauge, "ops", "Compressions.", 1000.0⟩,
   ⟨"COMPRESS_OPS", .counter, "ops_total", "Number of compressions.", 1.0⟩]

/-- A row that repeats a column and lacks a cell. -/
def raggedRow : Row where
  columns := ["PAGE_SIZE", "Compress_Ops", "compress_ops", "text"]
  cells := [some (Utf8.encode "1024"), some (Utf8.encode "10"), some (Utf8.encode "20")]

theorem samples_build_ragged : (∀ c ∈ compressions, c.kind.isScalar = true) ∧
    ∃ samples,
      (build "mysql" "innodb_cmp" [("page_size", "page_size")] compressions).samples raggedRow =
        .ok samples ∧
      Tell "mysql_innodb_cmp" [("page_size", "page_size")] compressions raggedRow samples := by
  have hk : ∀ c ∈ compressions, c.kind.isScalar = true := by
    intro c hc
    simp only [compressions, List.mem_cons, List.not_mem_nil, or_false] at hc
    rcases hc with rfl | rfl <;> rfl
  exact ⟨hk, samples_build "mysql" "innodb_cmp" _ _ hk _⟩

end Dispatch
end MysqlMetrics
