import Mathlib.Data.List.Induction
import Mathlib.Data.List.Pairwise
import MysqlMetrics.Proofs.Families
/-!
# Which samples are kept

A builder keeps a sample if it fits the samples before it: its schema is that of the first sample of
its name, and no sample that was kept under the name has its values (`push_iff`). Whether samples
are kept is so a matter of their order only where they do not fit each other: none is dropped
exactly if any two of them do (`dropped_eq_zero_iff`). What was kept is what the builder holds
(`contents_pushAll`).
-/
namespace MysqlMetrics

open SortedTable

/-- Sorted by a text, items stand in the order of the text. -/
theorem pairwise_mergeSort_text {α : Type} (text : α → String) (xs : List α) :
    (xs.mergeSort fun a b => text a ≤ text b).Pairwise fun a b => text a ≤ text b := by
  refine (List.pairwise_mergeSort (fun a b c hab hbc => ?_) (fun a b => ?_) xs).imp
    fun h => of_decide_eq_true h
  · exact decide_eq_true (String.le_trans (of_decide_eq_true hab) (of_decide_eq_true hbc))
  · simpa using String.le_total (text a) (text b)

/-! ## Schemas -/

namespace Desc

/-- The names of all labels, constant or not. -/
def allLabels (d : Desc) : List String := d.constLabels.map (·.1) ++ d.labels

/-- The same name, help and kind, and the same label names in whatever order. -/
structure SameSchema (a b : Desc) : Prop where
  name : a.name = b.name
  help : a.help = b.help
  kind : a.kind = b.kind
  labels : a.allLabels.Perm b.allLabels

variable {a b d : Desc}

theorem labelNames_perm (d : Desc) : d.labelNames.Perm d.allLabels := List.mergeSort_perm _ _

theorem labelNames_sorted (d : Desc) : d.labelNames.Pairwise (· ≤ ·) :=
  pairwise_mergeSort_text id _

theorem labelNames_eq_iff : a.labelNames = b.labelNames ↔ a.allLabels.Perm b.allLabels := by
  constructor
  · intro h
    exact (labelNames_perm a).symm.trans (h ▸ labelNames_perm b)
  · intro h
    exact List.Perm.eq_of_pairwise (fun _ _ _ _ => String.le_antisymm) (labelNames_sorted a)
      (labelNames_sorted b) ((labelNames_perm a).trans (h.trans (labelNames_perm b).symm))

theorem agrees_iff : a.agrees b = true ↔ a.SameSchema b := by
  simp only [agrees, Bool.and_eq_true, beq_iff_eq, labelNames_eq_iff]
  constructor
  · rintro ⟨⟨⟨hn, hh⟩, hk⟩, hl⟩
    exact ⟨hn, hh, hk, hl⟩
  · intro h
    exact ⟨⟨⟨h.name, h.help⟩, h.kind⟩, h.labels⟩

theorem SameSchema.refl (d : Desc) : d.SameSchema d := ⟨rfl, rfl, rfl, .refl _⟩

theorem SameSchema.symm (h : a.SameSchema b) : b.SameSchema a :=
  ⟨h.name.symm, h.help.symm, h.kind.symm, h.labels.symm⟩

theorem SameSchema.trans (h : a.SameSchema b) (h' : b.SameSchema d) : a.SameSchema d :=
  ⟨h.name.trans h'.name, h.help.trans h'.help, h.kind.trans h'.kind, h.labels.trans h'.labels⟩

end Desc

namespace FamilyBuilder

variable {b : FamilyBuilder} {s t : Sample} {ss : List Sample} {n : String}

/-! ## What was kept -/

/-- The samples that are kept of those pushed in turn. -/
def accepted (b : FamilyBuilder) : List Sample → List Sample
  | [] => []
  | s :: ss =>
    if (b.push s).1 then s :: accepted (b.push s).2 ss else accepted (b.push s).2 ss

/-- All samples that a builder holds. -/
def contents (b : FamilyBuilder) : List Sample := b.families.flatMap fun p => values p.2.samples

theorem size_eq (b : FamilyBuilder) : b.size = b.contents.length := by
  simp only [size, contents, List.length_flatMap, values, List.length_map]

theorem pushAll_append (b : FamilyBuilder) (ss ts : List Sample) :
    b.pushAll (ss ++ ts) = (b.pushAll ss).pushAll ts := List.foldl_append

theorem accepted_sublist (b : FamilyBuilder) (ss : List Sample) : (b.accepted ss).Sublist ss := by
  induction ss generalizing b with
  | nil => exact .slnil
  | cons s ss ih =>
    rw [accepted]
    split
    · exact (ih _).cons_cons s
    · exact (ih _).cons s

theorem dropped_push (b : FamilyBuilder) (s : Sample) :
    (b.push s).2.dropped + (if (b.push s).1 then 1 else 0) = b.dropped + 1 := by
  unfold push
  dsimp only
  split <;> rfl

/-- Every sample is kept or counted as dropped. -/
theorem dropped_pushAll (b : FamilyBuilder) (ss : List Sample) :
    (b.pushAll ss).dropped + (b.accepted ss).length = b.dropped + ss.length := by
  induction ss generalizing b with
  | nil => rfl
  | cons s ss ih =>
    have hrest : ((b.push s).2.pushAll ss).dropped + ((b.push s).2.accepted ss).length = _ := ih _
    have hone := dropped_push b s
    change ((b.push s).2.pushAll ss).dropped + _ = _
    rw [accepted, List.length_cons]
    split <;> rename_i hs
    · rw [if_pos hs] at hone
      rw [List.length_cons]
      omega
    · rw [if_neg hs] at hone
      omega

theorem accepted_eq_self_iff (ss : List Sample) :
    empty.accepted ss = ss ↔ (empty.pushAll ss).dropped = 0 := by
  have hcount : (empty.pushAll ss).dropped + (empty.accepted ss).length = 0 + ss.length :=
    dropped_pushAll empty ss
  constructor
  · intro h
    rw [h] at hcount
    omega
  · intro h
    exact (accepted_sublist empty ss).eq_of_length (by omega)

/-! ## What a builder holds -/

/-- A sample that is kept joins what the builder holds. -/
theorem contents_push (h : b.Ordered) (s : Sample) :
    (b.push s).2.contents.Perm (if (b.push s).1 then s :: b.contents else b.contents) := by
  unfold push
  dsimp only
  split <;> rename_i ha
  · simp only [if_true, contents, SortedTable.insert]
    have hnew : find? s.labelKey (b.entryFor s).samples = none := by
      simp only [FamilyEntry.accepts, Bool.and_eq_true, SortedTable.has] at ha
      simpa using ha.2
    have hvalues : (values (upsert s.labelKey (fun _ => s) (b.entryFor s).samples)).Perm
        (s :: values (b.entryFor s).samples) := (upsert_perm hnew).map _
    unfold entryFor at hvalues ⊢
    -- a new entry goes among the others, one that is there changes in its place
    cases hf : find? s.desc.name b.families with
    | none =>
      rw [hf] at hvalues
      refine ((upsert_perm hf).flatMap_right _).trans ?_
      exact hvalues.append_right _
    | some e =>
      obtain ⟨pre, post, hsplit, hup⟩ := exists_split_of_find? h.names hf
      rw [hf] at hvalues
      rw [hup, hsplit]
      simp only [List.flatMap_append, List.flatMap_cons]
      refine List.Perm.trans ?_ List.perm_middle
      exact (hvalues.append_right _).append_left _
  · exact .refl _

theorem contents_pushAll (h : b.Ordered) (ss : List Sample) :
    (b.pushAll ss).contents.Perm (b.contents ++ b.accepted ss) := by
  induction ss generalizing b with
  | nil => simp [pushAll, accepted]
  | cons s ss ih =>
    have ih := ih (ordered_push h s)
    change ((b.push s).2.pushAll ss).contents.Perm _
    refine ih.trans ?_
    rw [accepted]
    have hone := contents_push h s
    split <;> rename_i hs
    · rw [if_pos hs] at hone
      exact (hone.append_right _).trans List.perm_middle.symm
    · rw [if_neg hs] at hone
      exact hone.append_right _

theorem contents_empty_pushAll (ss : List Sample) :
    (empty.pushAll ss).contents.Perm (empty.accepted ss) := contents_pushAll ordered_empty ss

/-- What a builder was given is kept, or dropped and counted. -/
theorem size_add_dropped (ss : List Sample) :
    (empty.pushAll ss).size + (empty.pushAll ss).dropped = ss.length := by
  have hcount : (empty.pushAll ss).dropped + (empty.accepted ss).length = 0 + ss.length :=
    dropped_pushAll empty ss
  have hlen := (contents_empty_pushAll ss).length_eq
  rw [size_eq]
  omega

/-! ## Entries -/

/-- The first sample that was pushed under a name. -/
def firstOf (ss : List Sample) (n : String) : Option Sample := ss.find? fun s => s.desc.name = n

theorem firstOf_eq_some {first : Sample} (h : firstOf ss n = some first) :
    first ∈ ss ∧ first.desc.name = n := by
  unfold firstOf at h
  exact ⟨List.mem_of_find?_eq_some h, of_decide_eq_true (List.find?_some h :)⟩

theorem exists_firstOf (h : s ∈ ss) (hn : s.desc.name = n) : ∃ first, firstOf ss n = some first :=
  Option.isSome_iff_exists.1 (List.find?_isSome.2 ⟨s, h, decide_eq_true hn⟩)

/-- The entry of a name has the descriptor of the first sample of the name; its samples are of the
name and agree with the descriptor. -/
theorem entry_spec {e : FamilyEntry} (h : find? n (empty.pushAll ss).families = some e) :
    (∃ first, firstOf ss n = some first ∧ e.desc = first.desc) ∧
      ∀ q ∈ e.samples, q.2.desc.name = n ∧ e.desc.agrees q.2.desc = true := by
  have hkeys := (ordered_pushAll ordered_empty ss).keys _ (mem_of_find? h)
  have hfirst : firstOf ss n = (ss.filter fun s => s.desc.name = n).head? := by
    rw [List.head?_filter]
    rfl
  have hmine : ∀ s ∈ ss.filter fun s => s.desc.name = n, s.desc.name = n := fun s hs => by
    simpa using (List.mem_filter.1 hs).2
  rw [find?_empty_pushAll] at h
  rw [hfirst]
  generalize ss.filter (fun s => s.desc.name = n) = mine at h hmine
  cases mine with
  | nil => simp [FamilyEntry.ofSamples] at h
  | cons s mine =>
    obtain ⟨e', he', hd, hfind⟩ := find?_ofSamples s mine
    obtain rfl : e' = e := Option.some.inj (he'.symm.trans h)
    refine ⟨⟨s, rfl, hd⟩, fun q hq => ?_⟩
    have hq := hkeys.find? hq
    rw [hfind] at hq
    refine ⟨hmine _ (List.mem_of_find?_eq_some hq), ?_⟩
    have hp := List.find?_some hq
    rw [hd]
    exact (Bool.and_eq_true_iff.1 hp).1

theorem find?_eq_none_iff :
    find? n (empty.pushAll ss).families = none ↔ ∀ s ∈ ss, s.desc.name ≠ n := by
  have hnames : n ∈ keys (empty.pushAll ss).families ↔ ∃ s ∈ ss, s.desc.name = n := by
    rw [← names_finish]
    exact mem_names_finish
  constructor
  · intro h s hs hn
    obtain ⟨p, hp, hpn⟩ := List.mem_map.1 (hnames.2 ⟨s, hs, hn⟩)
    exact find?_eq_none.1 h p hp hpn
  · intro h
    refine find?_eq_none.2 fun p hp hpn => ?_
    obtain ⟨s, hs, hn⟩ := hnames.1 (List.mem_map.2 ⟨p, hp, hpn⟩)
    exact h s hs hn

theorem filter_contents {e : FamilyEntry} (h : find? n (empty.pushAll ss).families = some e) :
    (empty.pushAll ss).contents.filter (fun s => s.desc.name = n) = values e.samples := by
  have ho := ordered_pushAll ordered_empty ss
  obtain ⟨pre, post, hsplit, -⟩ := exists_split_of_find? ho.names h
  have hnodup := ho.names.nodup_keys
  rw [hsplit, keys, List.map_append, List.map_cons, List.nodup_middle, List.nodup_cons] at hnodup
  -- what stands before and after the entry is under other names
  have hother : ∀ part : SortedTable String FamilyEntry,
      (∀ p ∈ part, p ∈ (empty.pushAll ss).families ∧ p.1 ∈ pre.map (·.1) ++ post.map (·.1)) →
      (part.flatMap fun p => values p.2.samples).filter (fun s => s.desc.name = n) = [] := by
    refine fun part hpart => List.filter_eq_nil_iff.2 fun t ht hn => ?_
    obtain ⟨p, hp, ht⟩ := List.mem_flatMap.1 ht
    obtain ⟨q, hq, rfl⟩ := List.mem_map.1 ht
    obtain ⟨hmem, hkey⟩ := hpart p hp
    have hname := ((entry_spec (ho.names.find? hmem)).2 q hq).1
    rw [← hname, of_decide_eq_true hn] at hkey
    exact hnodup.1 hkey
  have hown : (values e.samples).filter (fun s => s.desc.name = n) = values e.samples := by
    refine List.filter_eq_self.2 fun t ht => ?_
    obtain ⟨q, hq, rfl⟩ := List.mem_map.1 ht
    exact decide_eq_true ((entry_spec h).2 q hq).1
  rw [contents, hsplit, List.flatMap_append, List.flatMap_cons, List.filter_append,
    List.filter_append, hown, hother pre fun p hp => ?_, hother post fun p hp => ?_,
    List.nil_append, List.append_nil]
  · exact ⟨by simp [hsplit, hp], List.mem_append_right _ (List.mem_map_of_mem hp)⟩
  · exact ⟨by simp [hsplit, hp], List.mem_append_left _ (List.mem_map_of_mem hp)⟩

/-- An entry holds what was kept under its name. -/
theorem values_perm {e : FamilyEntry} (h : find? n (empty.pushAll ss).families = some e) :
    (values e.samples).Perm ((empty.accepted ss).filter fun s => s.desc.name = n) := by
  rw [← filter_contents h]
  exact (contents_empty_pushAll ss).filter _

theorem mem_values_iff {e : FamilyEntry} (h : find? n (empty.pushAll ss).families = some e) :
    t ∈ values e.samples ↔ t ∈ empty.accepted ss ∧ t.desc.name = n := by
  rw [(values_perm h).mem_iff, List.mem_filter, decide_eq_true_eq]

/-! ## Pushing -/

/-- A sample fits those that were pushed before it. -/
structure Fits (ss : List Sample) (s : Sample) : Prop where
  schema : ∀ first, firstOf ss s.desc.name = some first → first.desc.SameSchema s.desc
  values : ∀ t ∈ empty.accepted ss, t.desc.name = s.desc.name → t.labelKey ≠ s.labelKey

/-- A push answers that it kept a sample exactly if the sample fits. -/
theorem push_iff (ss : List Sample) (s : Sample) :
    ((empty.pushAll ss).push s).1 = true ↔ Fits ss s := by
  have ho := ordered_pushAll ordered_empty ss
  have hpush : ((empty.pushAll ss).push s).1 =
      FamilyEntry.accepts ((empty.pushAll ss).entryFor s) s := by
    unfold push
    dsimp only
    split <;> rename_i ha
    · exact ha.symm
    · exact (Bool.eq_false_iff.2 ha).symm
  rw [hpush, entryFor]
  cases hf : find? s.desc.name (empty.pushAll ss).families with
  | none =>
    have hnone := find?_eq_none_iff.1 hf
    refine iff_of_true (FamilyEntry.accepts_new s) ⟨fun first hfirst => ?_, fun t ht hn => ?_⟩
    · exact absurd (firstOf_eq_some hfirst).2 (hnone first (firstOf_eq_some hfirst).1)
    · exact absurd hn (hnone t ((accepted_sublist _ _).subset ht))
  | some e =>
    obtain ⟨⟨first, hfirst, hd⟩, -⟩ := entry_spec hf
    have hkeyed := ho.keyed _ (mem_of_find? hf)
    have hhas : SortedTable.has s.labelKey e.samples = false ↔
        ∀ t ∈ empty.accepted ss, t.desc.name = s.desc.name → t.labelKey ≠ s.labelKey := by
      rw [SortedTable.has, Option.isSome_eq_false_iff, Option.isNone_iff_eq_none,
        find?_eq_none]
      constructor
      · intro h t ht hn
        obtain ⟨q, hq, rfl⟩ := List.mem_map.1 ((mem_values_iff hf).2 ⟨ht, hn⟩)
        rw [hkeyed q hq]
        exact h q hq
      · intro h q hq
        obtain ⟨ht, hn⟩ := (mem_values_iff hf).1 (List.mem_map_of_mem hq)
        rw [← hkeyed q hq]
        exact h q.2 ht hn
    rw [Option.getD_some, FamilyEntry.accepts, Bool.and_eq_true, Bool.not_eq_true', hhas, hd,
      Desc.agrees_iff]
    constructor
    · rintro ⟨hs, hv⟩
      exact ⟨fun x hx => Option.some.inj (hfirst.symm.trans hx) ▸ hs, hv⟩
    · intro h
      exact ⟨h.schema first hfirst, h.values⟩

theorem dropped_append_one_eq_zero (ss : List Sample) (s : Sample) :
    (empty.pushAll (ss ++ [s])).dropped = 0 ↔ (empty.pushAll ss).dropped = 0 ∧ Fits ss s := by
  have hone := dropped_push (empty.pushAll ss) s
  rw [pushAll_append, ← push_iff]
  change ((empty.pushAll ss).push s).2.dropped = 0 ↔ _
  split at hone <;> rename_i hs
  · rw [and_iff_left hs]
    omega
  · exact ⟨fun h => by omega, fun h => absurd h.2 hs⟩

/-! ## Samples that go together -/

/-- Two samples of one name have one schema and different values. -/
def Compatible (s t : Sample) : Prop :=
  s.desc.name = t.desc.name → s.desc.SameSchema t.desc ∧ s.labelKey ≠ t.labelKey

theorem Compatible.symm (h : Compatible s t) : Compatible t s := fun hn =>
  ⟨(h hn.symm).1.symm, (h hn.symm).2.symm⟩

instance : Std.Symm Compatible := ⟨fun _ _ => Compatible.symm⟩

/-- Among samples that go together a further one fits if it goes with each of them. -/
theorem fits_iff (h : ss.Pairwise Compatible) (hss : empty.accepted ss = ss) :
    Fits ss s ↔ ∀ t ∈ ss, Compatible t s := by
  constructor
  · intro hs t ht hn
    obtain ⟨first, hfirst⟩ := exists_firstOf ht hn
    obtain ⟨hmem, hname⟩ := firstOf_eq_some hfirst
    refine ⟨?_, hs.values t (hss.symm ▸ ht) hn⟩
    -- the schema goes by way of the first sample of the name
    by_cases heq : t = first
    · exact heq ▸ hs.schema first hfirst
    · have hgo := h.forall ht hmem heq
      exact (hgo (hn.trans hname.symm)).1.trans (hs.schema first hfirst)
  · intro hs
    refine ⟨fun first hfirst => ?_, fun t ht hn => ?_⟩
    · obtain ⟨hmem, hname⟩ := firstOf_eq_some hfirst
      exact (hs first hmem hname).1
    · exact (hs t (hss ▸ ht) hn).2

/-- All samples are kept exactly if any two of them go together. -/
theorem dropped_eq_zero_iff (ss : List Sample) :
    (empty.pushAll ss).dropped = 0 ↔ ss.Pairwise Compatible := by
  induction ss using List.reverseRecOn with
  | nil => simp [pushAll, empty]
  | append_singleton ss s ih =>
    rw [dropped_append_one_eq_zero, List.pairwise_append, ih]
    refine and_congr_right fun h => ?_
    rw [fits_iff h ((accepted_eq_self_iff ss).2 (ih.2 h))]
    simp

/-- A sample without labels goes with those of other names only. -/
theorem compatible_iff_name_ne (h : s.desc.allLabels = []) :
    Compatible s t ↔ s.desc.name ≠ t.desc.name := by
  have hkey : ∀ x : Sample, x.desc.allLabels = [] → x.labelKey = [] := by
    intro x hx
    obtain ⟨hconst, hlabels⟩ := List.append_eq_nil_iff.1 hx
    rw [List.map_eq_nil_iff] at hconst
    simp [Sample.labelKey, Sample.labelPairs, hconst, hlabels]
  constructor
  · intro hc hn
    obtain ⟨hschema, hne⟩ := hc hn
    have ht : t.desc.allLabels = [] := List.nil_perm.1 (h ▸ hschema.labels)
    exact hne ((hkey s h).trans (hkey t ht).symm)
  · intro hne hn
    exact absurd hn hne

end FamilyBuilder
end MysqlMetrics
