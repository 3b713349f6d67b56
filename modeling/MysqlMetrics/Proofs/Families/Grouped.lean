import Mathlib.Data.List.Sort
import MysqlMetrics.Decimal.Binary64
import MysqlMetrics.Proofs.Families.Accepted
/-!
# What families present

The families that a builder gives are told by the samples it was given, without regard to how it
holds them (`Presents`): a family for each name, described by the first sample of the name, with a
metric for each sample that was kept. Both the families and the metrics of one ascend, so nothing is
left open (`Presents.unique`). It follows that the order in which samples arrive cannot be seen
where all of them are kept (`finish_perm`).
-/
namespace MysqlMetrics

open SortedTable

/-- A metric shows a sample: all its labels, sorted by name, with their values, and what was
observed. -/
structure Metric.Shows (m : Metric) (s : Sample) : Prop where
  labels : m.labels.Perm (s.desc.constLabels ++ s.desc.labels.zip s.labels)
  sorted : m.labels.Pairwise fun a b => a.1 ≤ b.1
  values : m.labels.map (·.2) = s.labelKey
  reading : m.reading = s.reading

theorem Sample.shows_toMetric (s : Sample) : s.toMetric.Shows s where
  labels := List.mergeSort_perm _ _
  sorted := pairwise_mergeSort_text (fun pair : String × String => pair.1) _
  values := rfl
  reading := rfl

namespace FamilyBuilder

variable {ss ts : List Sample} {fs gs : List Family}

/-- The families that present samples. -/
structure Presents (ss : List Sample) (fs : List Family) : Prop where
  ascending : fs.Pairwise fun f g => f.name < g.name
  named : ∀ n, n ∈ fs.map (·.name) ↔ ∃ s ∈ ss, s.desc.name = n
  described : ∀ f ∈ fs, ∃ first, firstOf ss f.name = some first ∧
    f.help = first.desc.help ∧ f.kind = first.desc.kind
  filled : ∀ f ∈ fs, f.metrics ≠ []
  kept : ∀ f ∈ fs, ∃ mine : List Sample,
    mine.Perm ((empty.accepted ss).filter fun s => s.desc.name = f.name) ∧
      mine.Pairwise (fun s t => s.labelKey < t.labelKey) ∧ f.metrics = mine.map Sample.toMetric

theorem presents_finish (ss : List Sample) : Presents ss (empty.pushAll ss).finish := by
  have ho := ordered_pushAll ordered_empty ss
  have hmem : ∀ f ∈ (empty.pushAll ss).finish, ∃ e,
      find? f.name (empty.pushAll ss).families = some e ∧ f.help = e.desc.help ∧
        f.kind = e.desc.kind ∧ f.metrics = (values e.samples).map Sample.toMetric := by
    intro f hf
    obtain ⟨p, hp, rfl⟩ := List.mem_map.1 hf
    exact ⟨p.2, ho.names.find? hp, rfl, rfl, rfl⟩
  refine ⟨?_, fun n => mem_names_finish, fun f hf => ?_, fun f hf => ?_, fun f hf => ?_⟩
  · refine List.pairwise_map.2 (ho.names.imp fun h => ?_)
    exact compareOfLessAndEq_eq_lt.1 h
  · obtain ⟨e, he, hhelp, hkind, -⟩ := hmem f hf
    obtain ⟨⟨first, hfirst, hd⟩, -⟩ := entry_spec he
    exact ⟨first, hfirst, hd ▸ hhelp, hd ▸ hkind⟩
  · exact (exists_sample_of_mem_finish hf).1
  · obtain ⟨e, he, -, -, hmetrics⟩ := hmem f hf
    have hin := mem_of_find? he
    refine ⟨values e.samples, values_perm he, ?_, hmetrics⟩
    refine List.pairwise_map.2 ((ho.keys _ hin).imp_of_mem fun {p q} hp hq h => ?_)
    rw [ho.keyed _ hin p hp, ho.keyed _ hin q hq]
    exact compareOfLessAndEq_eq_lt.1 h

/-! ## Order of arrival -/

/-- Samples that are all kept are presented by the same families, whatever their order. -/
theorem Presents.unique (h : Presents ss fs) (h' : Presents ts gs) (hperm : ss.Perm ts)
    (hc : ss.Pairwise Compatible) (hs : empty.accepted ss = ss) (ht : empty.accepted ts = ts) :
    fs = gs := by
  have hsame : ∀ s ∈ ss, ∀ t ∈ ss, s.desc.name = t.desc.name → s.desc.SameSchema t.desc := by
    intro s hs t ht hn
    by_cases heq : s = t
    · exact heq ▸ .refl _
    · exact (hc.forall hs ht heq hn).1
  -- the first samples of a name may differ, but not in what a family shows of them
  have heq : ∀ f ∈ fs, ∀ g ∈ gs, f.name = g.name → f = g := by
    intro f hf g hg hn
    obtain ⟨first, hfirst, hhelp, hkind⟩ := h.described f hf
    obtain ⟨first', hfirst', hhelp', hkind'⟩ := h'.described g hg
    obtain ⟨hin, hname⟩ := firstOf_eq_some hfirst
    obtain ⟨hin', hname'⟩ := firstOf_eq_some hfirst'
    have hd := hsame first hin first' (hperm.mem_iff.2 hin') (by rw [hname, hname', hn])
    obtain ⟨mine, hmine, hasc, hmetrics⟩ := h.kept f hf
    obtain ⟨mine', hmine', hasc', hmetrics'⟩ := h'.kept g hg
    rw [hs, hn] at hmine
    rw [ht] at hmine'
    have hlist : mine = mine' := by
      refine List.Perm.eq_of_pairwise (fun s t _ _ hst hts => ?_) hasc hasc'
        (hmine.trans ((hperm.filter _).trans hmine'.symm))
      exact absurd hts (List.lt_asymm hst)
    obtain ⟨name, help, kind, metrics⟩ := f
    obtain ⟨name', help', kind', metrics'⟩ := g
    simp only at hn hhelp hhelp' hkind hkind' hmetrics hmetrics'
    rw [hn, hhelp, hhelp', hkind, hkind', hmetrics, hmetrics', hd.help, hd.kind, hlist]
  have hnames : ∀ n, n ∈ fs.map (·.name) ↔ n ∈ gs.map (·.name) := by
    intro n
    rw [h.named, h'.named]
    simp only [hperm.mem_iff]
  have _ : Std.Antisymm fun f g : Family => f.name < g.name :=
    ⟨fun _ _ hfg hgf => absurd hgf (String.lt_asymm hfg)⟩
  have _ : Std.Irrefl fun f g : Family => f.name < g.name := ⟨fun f => String.lt_irrefl f.name⟩
  refine h.ascending.eq_of_mem_iff h'.ascending fun f => ⟨fun hf => ?_, fun hf => ?_⟩
  · obtain ⟨g, hg, hn⟩ := List.mem_map.1 ((hnames _).1 (List.mem_map_of_mem hf))
    rw [heq f hf g hg hn.symm]
    exact hg
  · obtain ⟨g, hg, hn⟩ := List.mem_map.1 ((hnames _).2 (List.mem_map_of_mem hf))
    rw [← heq g hg f hf hn]
    exact hg

/-- **The order of arrival cannot be seen.** If no sample is dropped, none is dropped in any other
order either, and the families are the same. -/
theorem finish_perm (hd : (empty.pushAll ss).dropped = 0) (hperm : ss.Perm ts) :
    (empty.pushAll ts).dropped = 0 ∧ (empty.pushAll ts).finish = (empty.pushAll ss).finish := by
  have hc := (dropped_eq_zero_iff ss).1 hd
  have hd' : (empty.pushAll ts).dropped = 0 :=
    (dropped_eq_zero_iff ts).2 (hc.perm hperm Compatible.symm)
  refine ⟨hd', ?_⟩
  exact ((presents_finish ss).unique (presents_finish ts) hperm hc
    ((accepted_eq_self_iff ss).2 hd) ((accepted_eq_self_iff ts).2 hd')).symm

namespace Traded

/-- The operations of one side, with the side as a constant label. -/
def bySide : Desc := ⟨"mysql_ops", "Operations.", .counter, ["op"], [("side", "client")]⟩

/-- The same metric with the operation as the constant label. -/
def byOp : Desc := ⟨"mysql_ops", "Operations.", .counter, ["side"], [("op", "read")]⟩

def samplesOf (a b c : Reading) : List Sample :=
  [⟨bySide, ["read"], a⟩, ⟨byOp, ["server"], b⟩, ⟨bySide, ["write"], c⟩]

def samples : List Sample :=
  samplesOf (.scalar (Decimal.ofNat 1)) (.scalar (Decimal.ofNat 2)) (.scalar (Decimal.ofNat 3))

theorem dropped_samplesOf (a b c : Reading) : (empty.pushAll (samplesOf a b c)).dropped = 0 := by
  -- the values tell the samples apart in whatever order the labels stand
  have hvalues : ((samplesOf a b c).map fun s =>
      (s.desc.constLabels ++ s.desc.labels.zip s.labels).map (·.2)).Pairwise (¬ ·.Perm ·) := by
    change [["client", "read"], ["read", "server"], ["client", "write"]].Pairwise (¬ ·.Perm ·)
    decide
  have hkeys : (samplesOf a b c).Pairwise fun s t => s.labelKey ≠ t.labelKey := by
    refine (List.pairwise_map.1 hvalues).imp fun {s t} hne hkey => hne ?_
    have hperm : ∀ s : Sample, s.labelKey.Perm
        ((s.desc.constLabels ++ s.desc.labels.zip s.labels).map (·.2)) :=
      fun s => (List.mergeSort_perm _ _).map _
    exact (hperm s).symm.trans (hkey ▸ hperm t)
  have hschema : ∀ s ∈ samplesOf a b c, bySide.SameSchema s.desc := by
    intro s hs
    simp only [samplesOf, List.mem_cons, List.not_mem_nil, or_false] at hs
    rcases hs with rfl | rfl | rfl
    · exact .refl _
    · exact ⟨rfl, rfl, rfl, .swap "op" "side" []⟩
    · exact .refl _
  refine (dropped_eq_zero_iff _).2 (hkeys.imp_of_mem ?_)
  exact fun hs ht hne _ => ⟨(hschema _ hs).symm.trans (hschema _ ht), hne⟩

end Traded

open Traded in
/-- Constant and variable labels may trade places between the samples of a metric. -/
theorem finish_perm_traded : (empty.pushAll samples).dropped = 0 ∧ samples.Perm samples.reverse ∧
    (empty.pushAll samples.reverse).dropped = 0 ∧
    (empty.pushAll samples.reverse).finish = (empty.pushAll samples).finish := by
  have hd : (empty.pushAll samples).dropped = 0 := dropped_samplesOf _ _ _
  have hperm : samples.Perm samples.reverse := (List.reverse_perm _).symm
  exact ⟨hd, hperm, finish_perm hd hperm⟩

/-! ## All together -/

theorem isEmpty_iff (ss : List Sample) : (empty.pushAll ss).isEmpty = true ↔ ss = [] := by
  rw [isEmpty, List.isEmpty_iff]
  constructor
  · intro h
    refine List.eq_nil_iff_forall_not_mem.2 fun s hs => ?_
    have hnone : find? s.desc.name (empty.pushAll ss).families = none := by rw [h]; rfl
    exact find?_eq_none_iff.1 hnone s hs rfl
  · rintro rfl
    rfl

/-- **How samples are grouped.** A push keeps a sample exactly if its schema is that of the first
sample of its name and its values are new among those kept under the name. Every sample is kept or
counted as dropped, and only a builder that was given nothing is empty. The families present the
samples: in order of their names, each described by the first sample of its name, with exactly the
samples kept under it in order of their values, each with all its labels in order and what was
observed. -/
theorem pushAll_grouped (ss : List Sample) :
    (∀ s, ((empty.pushAll ss).push s).1 = true ↔ Fits ss s) ∧
    (empty.pushAll ss).size + (empty.pushAll ss).dropped = ss.length ∧
    ((empty.pushAll ss).isEmpty = true ↔ ss = []) ∧
    Presents ss (empty.pushAll ss).finish ∧ ∀ s : Sample, s.toMetric.Shows s :=
  ⟨push_iff ss, size_add_dropped ss, isEmpty_iff ss, presents_finish ss, Sample.shows_toMetric⟩

end FamilyBuilder
end MysqlMetrics
