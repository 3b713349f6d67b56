import MysqlMetrics.Collector.Basic
import MysqlMetrics.Proofs.Results
import MysqlMetrics.Proofs.Scrape.Script
import MysqlMetrics.Proofs.Table
import MysqlMetrics.Proofs.Text
import MysqlMetrics.Row.Dispatch
/-!
# How tasks behave

What a task emits and keeps is under descriptors of a kind, and whether it fails is decided by the
answers that it gets: it fails exactly if one of them is fatal (`Task.Behaves`). Which descriptors
and which answers these are depends on the collector. Tables of columns and label rules, which
several collectors use, are told here as well.
-/
namespace MysqlMetrics

variable {P : Desc → Prop} {fatal : String → QueryResult → Prop} {doomed : Prop} {t : Task}

/-- All descriptors that are kept are of a kind. -/
def DescCache.Of (P : Desc → Prop) (cache : DescCache) : Prop := ∀ p ∈ cache, P p.2

namespace Task

/-- A task that does not wait, emits samples under descriptors of a kind, and keeps no others. It
fails exactly if it is doomed, by what was answered before or by a fatal answer to come. -/
def Behaves (P : Desc → Prop) (fatal : String → QueryResult → Prop) : Prop → Task → Prop
  | doomed, .done => ¬ doomed
  | doomed, .fail _ => doomed
  | _, .panic _ => False
  | doomed, .emit s next => P s.desc ∧ Behaves P fatal doomed next
  | _, .sleep _ _ => False
  | doomed, .query sql next => ∀ answer, Behaves P fatal (doomed ∨ fatal sql answer) (next answer)
  | doomed, .cached change next => ∀ cache : DescCache, cache.Of P →
    (change cache).Of P ∧ Behaves P fatal doomed (next cache)

theorem behaves_emitAll {samples : List Sample} (h : ∀ s ∈ samples, P s.desc)
    (ht : t.Behaves P fatal doomed) : (emitAll samples t).Behaves P fatal doomed := by
  induction samples with
  | nil => exact ht
  | cons s samples ih =>
    exact ⟨h s (by simp), ih fun x hx => h x (by simp [hx])⟩

theorem behaves_query {sql : String} {next : QueryResult → Task}
    (h : ∀ answer, (next answer).Behaves P fatal (fatal sql answer)) :
    (Task.query sql next).Behaves P fatal False := by
  intro answer
  rw [false_or]
  exact h answer

end Task

/-- Some query was answered fatally. -/
def Unrolled.Doomed (fatal : String → QueryResult → Prop) (db : Database) (u : Unrolled) : Prop :=
  ∃ sql ∈ u.queries, fatal sql (db sql)

/-- How a task that behaves is unrolled. -/
structure Unrolled.Follows (P : Desc → Prop) (fatal : String → QueryResult → Prop) (db : Database)
    (doomed : Prop) (u : Unrolled) : Prop where
  emitted : ∀ s ∈ Script.emitted u.script.acts, P s.desc
  cache : u.cache.Of P
  slept : Script.slept u.script.acts = 0
  ending : u.script.ending = .ok ∧ ¬ (doomed ∨ u.Doomed fatal db) ∨
    (∃ message, u.script.ending = .failed message) ∧ (doomed ∨ u.Doomed fatal db)

theorem Task.Behaves.unroll (db : Database) : ∀ {t : Task} {doomed : Prop} {cache : DescCache},
    t.Behaves P fatal doomed → cache.Of P → (t.unroll db cache).Follows P fatal db doomed
  | .done, doomed, _, h, hc => by
    have h : ¬ doomed := h
    exact ⟨by simp [Task.unroll, Script.emitted], hc, rfl,
      .inl ⟨rfl, by simp [Task.unroll, Unrolled.Doomed, h]⟩⟩
  | .fail message, _, _, h, hc => ⟨by simp [Task.unroll, Script.emitted], hc, rfl,
      .inr ⟨⟨message, rfl⟩, .inl h⟩⟩
  | .panic _, _, _, h, _ => h.elim
  | .sleep _ _, _, _, h, _ => h.elim
  | .emit s next, _, _, h, hc => by
    obtain ⟨hs, hcache, hslept, hend⟩ := Behaves.unroll db h.2 hc
    refine ⟨fun x hx => ?_, hcache, hslept, hend⟩
    rcases List.mem_cons.1 (show x ∈ s :: Script.emitted _ from hx) with rfl | hx
    · exact h.1
    · exact hs x hx
  | .query sql next, doomed, cache, h, hc => by
    have u := Behaves.unroll db (h (db sql)) hc
    refine ⟨u.emitted, u.cache, u.slept, ?_⟩
    have hqueries : ((Task.query sql next).unroll db cache).Doomed fatal db ↔
        fatal sql (db sql) ∨ ((next (db sql)).unroll db cache).Doomed fatal db := by
      simp [Task.unroll, Unrolled.Doomed]
    rw [hqueries, ← or_assoc]
    exact u.ending
  | .cached change next, _, cache, h, hc =>
    Behaves.unroll db (t := next cache) (h cache hc).2 (h cache hc).1

/-! ## Samples in the making -/

/-- A sample can be made, and is under a descriptor of a kind. -/
def Made (P : Desc → Prop) (x : Except MetricError Sample) : Prop := ∃ s, x = .ok s ∧ P s.desc

section Made

variable {d : Desc} {labels : List String}

theorem made_build {reading : Reading} (h : P d) (hl : labels.length = d.labels.length) :
    Made P (Sample.build d labels reading) := by
  rw [Sample.build, if_pos hl]
  exact ⟨_, rfl, h⟩

theorem made_scalar {x : Float} (h : P d) (hk : d.kind.isScalar = true)
    (hl : labels.length = d.labels.length) : Made P (Sample.scalar d x labels) := by
  rw [Sample.scalar, if_pos hk]
  exact made_build h hl

theorem made_ofHistogram {data : Histogram} (h : P d) (hk : d.kind = .histogram)
    (hl : labels.length = d.labels.length) : Made P (Sample.ofHistogram d data labels) := by
  rw [Sample.ofHistogram, if_pos hk]
  exact made_build h hl

theorem made_ofSummary {data : Summary} (h : P d) (hk : d.kind = .summary)
    (hl : labels.length = d.labels.length) : Made P (Sample.ofSummary d data labels) := by
  rw [Sample.ofSummary, if_pos hk]
  exact made_build h hl

theorem made_of_mem_toList {α : Type} {o : Option α} {f : α → Except MetricError Sample}
    {x : Except MetricError Sample} (hx : x ∈ (o.map f).toList) (h : ∀ a, Made P (f a)) :
    Made P x := by
  cases o with
  | none => cases hx
  | some a =>
    simp only [Option.map_some, Option.toList_some, List.mem_singleton] at hx
    subst hx
    exact h a

theorem exists_mapM_of_made {α : Type} {f : α → Except MetricError Sample} {xs : List α}
    (h : ∀ x ∈ xs, Made P (f x)) :
    ∃ samples, xs.mapM f = .ok samples ∧ ∀ s ∈ samples, P s.desc := by
  obtain ⟨samples, hs⟩ := exists_mapM_eq_ok fun x hx => (h x hx).imp fun _ hs => hs.1
  refine ⟨samples, hs, fun s hmem => ?_⟩
  obtain ⟨x, hx, hok⟩ := exists_of_mem_mapM hs hmem
  obtain ⟨s', hs', hP⟩ := h x hx
  obtain rfl : s' = s := Except.ok.inj (hs'.symm.trans hok)
  exact hP

end Made

/-! ## Collecting -/

namespace QueryResult

/-- The query was refused. -/
def Refused : QueryResult → Prop
  | .rows _ => False
  | .failed _ => True

/-- The query was refused, and not because the server does not have what is asked for. -/
def Grave : QueryResult → Prop
  | .rows _ => False
  | .failed code => code ∉ featureAbsentCodes

end QueryResult

namespace Collector

theorem behaves_deliver {samples : List Sample} (h : ∀ s ∈ samples, P s.desc) :
    (deliver (.ok samples)).Behaves P fatal False := Task.behaves_emitAll h id

theorem behaves_deliver_of_exists {x : Except MetricError (List Sample)}
    (h : ∃ samples, x = .ok samples ∧ ∀ s ∈ samples, P s.desc) :
    (deliver x).Behaves P fatal False := by
  obtain ⟨samples, rfl, hP⟩ := h
  exact behaves_deliver hP

theorem behaves_fetch {sql : String} {next : List Row → Task}
    (hf : ∀ code, fatal sql (.failed code))
    (h : ∀ rows, (next rows).Behaves P fatal (fatal sql (.rows rows))) :
    (fetch sql next).Behaves P fatal False := by
  refine Task.behaves_query fun answer => ?_
  cases answer with
  | rows rows => exact h rows
  | failed code => exact hf code

theorem behaves_fetchOrAbsent {sql : String} {next : List Row → Task}
    (hf : ∀ code, fatal sql (.failed code) ↔ code ∉ featureAbsentCodes)
    (h : ∀ rows, (next rows).Behaves P fatal (fatal sql (.rows rows))) :
    (fetchOrAbsent sql next).Behaves P fatal False := by
  refine Task.behaves_query fun answer => ?_
  cases answer with
  | rows rows => exact h rows
  | failed code =>
    rw [hf code]
    dsimp only
    by_cases hc : code ∈ featureAbsentCodes
    · rw [if_pos (List.contains_iff_mem.2 hc)]
      exact fun hn => hn hc
    · rw [if_neg (mt List.contains_iff_mem.1 hc)]
      exact hc

end Collector

/-! ## Tables of columns -/

namespace Dispatch

variable {d : Dispatch}

/-- The descriptors of a table: those of its columns, and those of columns that it does not know. -/
def Describes (d : Dispatch) (x : Desc) : Prop :=
  (∃ p ∈ d.known, p.2.desc = x) ∨ ∃ column, d.genericDesc column = x

/-- Every column has a number under the labels of the table. -/
def Uniform (d : Dispatch) : Prop := ∀ p ∈ d.known,
  p.2.desc.kind.isScalar = true ∧ p.2.desc.labels.length = d.labelColumns.length

instance (d : Dispatch) : Decidable d.Uniform := inferInstanceAs (Decidable (∀ _ ∈ _, _))

theorem made_sampleOf (h : d.Uniform) {row : Row} {column : String} {cell : Cell}
    {x : Except MetricError Sample} (hx : d.sampleOf (d.labelValues row) column cell = some x) :
    Made d.Describes x := by
  have hlen : (d.labelValues row).length = d.labelColumns.length := by simp [labelValues]
  unfold sampleOf at hx
  split at hx
  · cases hx
  · obtain ⟨value, -, rfl⟩ := Option.map_eq_some_iff.1 hx
    split
    · rename_i m hm
      have hmem := SortedTable.mem_of_find? hm
      obtain ⟨hk, hn⟩ := h _ hmem
      exact made_scalar (.inl ⟨_, hmem, rfl⟩) hk (hlen.trans hn.symm)
    · exact made_scalar (.inr ⟨column, rfl⟩) rfl (by simp [hlen, genericDesc, labelNames])

theorem exists_samples (h : d.Uniform) (rows : List Row) :
    ∃ ss, (rows.mapM d.samples).map List.flatten = .ok ss ∧ ∀ s ∈ ss, d.Describes s.desc := by
  have hrow : ∀ row, ∃ samples, d.samples row = .ok samples ∧
      ∀ s ∈ samples, d.Describes s.desc := by
    refine fun row => exists_mapM_of_made fun x hx => ?_
    obtain ⟨⟨column, cell⟩, -, hx⟩ := List.mem_filterMap.1 hx
    exact made_sampleOf h hx
  obtain ⟨lists, hl⟩ : ∃ lists, rows.mapM d.samples = .ok lists :=
    exists_mapM_eq_ok fun row _ => (hrow row).imp fun _ hs => hs.1
  refine ⟨lists.flatten, by rw [hl]; rfl, fun s hs => ?_⟩
  obtain ⟨list, hlist, hsl⟩ := List.mem_flatten.1 hs
  obtain ⟨row, -, hok⟩ := exists_of_mem_mapM hl hlist
  obtain ⟨samples, hsamples, hP⟩ := hrow row
  obtain rfl : samples = list := Except.ok.inj (hsamples.symm.trans hok)
  exact hP s hsl

end Dispatch

/-! ## Label rules -/

namespace LabelRule

variable {rules : List LabelRule} {key label : String} {rule : LabelRule}

/-- What is found after one more rule. -/
def better (key : String) (found : Option (LabelRule × String)) (rule : LabelRule) :
    Option (LabelRule × String) :=
  match Text.after? rule.start (Text.asciiLower key) with
  | none => found
  | some rest =>
    if rest.isEmpty then found
    else
      match found with
      | some (old, _) => if old.start.length ≤ rule.start.length then some (rule, rest) else found
      | none => some (rule, rest)

theorem best_eq_foldl : best rules key = rules.foldl (better key) none := rfl

theorem better_eq_some {found : Option (LabelRule × String)} {x : LabelRule}
    (h : better key found x = some (rule, label)) :
    found = some (rule, label) ∨
      x = rule ∧ Text.asciiLower key = rule.start ++ label ∧ label ≠ "" := by
  unfold better at h
  split at h
  · exact .inl h
  · rename_i rest ha
    have hnew : rest.isEmpty ≠ true → some (x, rest) = some (rule, label) →
        x = rule ∧ Text.asciiLower key = rule.start ++ label ∧ label ≠ "" := by
      intro he heq
      cases heq
      exact ⟨rfl, Text.after?_eq_some.1 ha, mt String.isEmpty_iff.2 he⟩
    split at h
    · exact .inl h
    · rename_i he
      split at h
      · split at h
        · exact .inr (hnew he h)
        · exact .inl h
      · exact .inr (hnew he h)

/-- A rule that is found takes the key apart. -/
theorem best_eq_some (h : best rules key = some (rule, label)) :
    rule ∈ rules ∧ Text.asciiLower key = rule.start ++ label ∧ label ≠ "" := by
  rw [best_eq_foldl] at h
  revert h
  refine List.foldlRecOn rules _ (motive := fun found => found = some (rule, label) → _)
    (by simp) fun found hf x hx h => ?_
  rcases better_eq_some h with h | ⟨rfl, hkey⟩
  · exact hf h
  · exact ⟨hx, hkey⟩

end LabelRule
end MysqlMetrics
