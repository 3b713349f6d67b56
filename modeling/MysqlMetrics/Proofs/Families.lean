import Mathlib.Data.List.Find
import Mathlib.Data.List.Nodup
import MysqlMetrics.Metric.Family
import MysqlMetrics.Proofs.Table
/-!
# Families as a fold over samples

A builder treats names apart: what it holds under one name is the fold of the samples of that name
(`find?_pushAll`), so leaving out other names leaves out other families and nothing else
(`finish_restrict`). Within a name the first sample decides on the descriptor, and of those that
agree with it the first of every key stays (`find?_ofSamples`). So names are distinct, and so are
the labels under a name (`nodup_labels_of_mem_finish`). `readings` is what can be read of families
(`readings_finish`).
-/
namespace MysqlMetrics

open SortedTable

theorem Desc.agrees_refl (d : Desc) : d.agrees d = true := by simp [Desc.agrees]

theorem Desc.agrees_trans {a b d : Desc} (h : a.agrees b = true) (h' : a.agrees d = true) :
    b.agrees d = true := by
  simp only [Desc.agrees, Bool.and_eq_true, beq_iff_eq] at *
  obtain ⟨⟨⟨h1, h2⟩, h3⟩, h4⟩ := h
  rw [← h1, ← h2, ← h3, ← h4]
  exact h'

theorem Desc.labelNames_of_agrees {a b : Desc} (h : a.agrees b = true) (ha : a.labelNames = []) :
    b.labelNames = [] := by
  simp only [Desc.agrees, Bool.and_eq_true, beq_iff_eq] at h
  rw [← h.2, ha]

theorem Sample.labelPairs_of_labelNames {s : Sample} (h : s.desc.labelNames = []) :
    s.labelPairs = [] := by
  have hlen := congrArg List.length h
  simp only [Desc.labelNames, List.length_mergeSort, List.length_append, List.length_map,
    List.length_nil, Nat.add_eq_zero_iff, List.length_eq_zero_iff] at hlen
  simp [Sample.labelPairs, hlen.1, hlen.2]

theorem Sample.labelKey_of_labelNames {s : Sample} (h : s.desc.labelNames = []) :
    s.labelKey = [] := by
  simp [Sample.labelKey, Sample.labelPairs_of_labelNames h]

namespace FamilyBuilder

variable {b : FamilyBuilder} {s : Sample} {n : String}

/-! ## One entry -/

theorem FamilyEntry.accepts_new (s : Sample) : FamilyEntry.accepts ⟨s.desc, []⟩ s = true := by
  simp [FamilyEntry.accepts, Desc.agrees_refl, SortedTable.has]

/-- The entry after a sample of its name was pushed. -/
def FamilyEntry.add (e : FamilyEntry) (s : Sample) : FamilyEntry :=
  if FamilyEntry.accepts e s then { e with samples := insert s.labelKey s e.samples } else e

/-- The entry of the samples of one name. -/
def FamilyEntry.ofSamples (ss : List Sample) : Option FamilyEntry :=
  ss.foldl (fun e s => some (FamilyEntry.add (e.getD ⟨s.desc, []⟩) s)) none

theorem FamilyEntry.add_desc (e : FamilyEntry) (s : Sample) : (add e s).desc = e.desc := by
  unfold add; split <;> rfl

theorem FamilyEntry.add_ascending {e : FamilyEntry} (h : Ascending e.samples) (s : Sample) :
    Ascending (add e s).samples := by
  unfold add; split
  · exact h.insert
  · exact h

theorem FamilyEntry.add_keyed {e : FamilyEntry}
    (h : ∀ q ∈ e.samples, q.2.labelKey = q.1) (s : Sample) :
    ∀ q ∈ (add e s).samples, q.2.labelKey = q.1 := by
  unfold add; split
  · intro q hq
    rcases mem_insert hq with rfl | hq
    · rfl
    · exact h q hq
  · exact h

theorem FamilyEntry.add_ne_nil {e : FamilyEntry} (s : Sample)
    (h : e.samples ≠ [] ∨ e.desc = s.desc) : (add e s).samples ≠ [] := by
  unfold add
  split
  · exact insert_ne_nil
  · rename_i ha
    rcases h with h | h
    · exact h
    · intro hn
      apply ha
      have : e = ⟨s.desc, []⟩ := by cases e; simp_all
      rw [this]
      exact accepts_new s

/-! ## What a builder holds -/

/-- Names ascend, and an entry stands under its own name and holds a sample; its samples stand
under their own keys, which ascend. -/
structure Ordered (b : FamilyBuilder) : Prop where
  names : Ascending b.families
  named : ∀ p ∈ b.families, p.2.desc.name = p.1
  filled : ∀ p ∈ b.families, p.2.samples ≠ []
  keys : ∀ p ∈ b.families, Ascending p.2.samples
  keyed : ∀ p ∈ b.families, ∀ q ∈ p.2.samples, q.2.labelKey = q.1

theorem ordered_empty : empty.Ordered :=
  ⟨.nil, by simp [empty], by simp [empty], by simp [empty], by simp [empty]⟩

theorem entryFor_desc (h : b.Ordered) (s : Sample) :
    (b.entryFor s).desc.name = s.desc.name := by
  unfold entryFor
  cases hf : find? s.desc.name b.families with
  | none => rfl
  | some e => exact h.named _ (mem_of_find? hf)

/-- A push touches the family of the sample's name only. -/
theorem find?_push (h : b.Ordered) (s : Sample) :
    find? n (b.push s).2.families =
      if n = s.desc.name then some (FamilyEntry.add (b.entryFor s) s) else find? n b.families := by
  unfold push FamilyEntry.add
  by_cases ha : FamilyEntry.accepts (b.entryFor s) s = true
  · simp only [ha, if_true]
    exact find?_insert h.names
  · simp only [ha, Bool.false_eq_true, if_false]
    by_cases hn : n = s.desc.name
    · subst hn
      simp only [if_true]
      unfold entryFor at ha ⊢
      cases hf : find? s.desc.name b.families with
      | none => simp [hf, FamilyEntry.accepts_new] at ha
      | some e => rfl
    · simp [hn]

theorem ordered_push (h : b.Ordered) (s : Sample) : (b.push s).2.Ordered := by
  have hkeys : Ascending (b.entryFor s).samples := by
    unfold entryFor
    cases hf : find? s.desc.name b.families with
    | none => exact .nil
    | some e => exact h.keys _ (mem_of_find? hf)
  have hkeyed : ∀ q ∈ (b.entryFor s).samples, q.2.labelKey = q.1 := by
    unfold entryFor
    cases hf : find? s.desc.name b.families with
    | none => simp
    | some e => exact h.keyed _ (mem_of_find? hf)
  have hfill : (b.entryFor s).samples ≠ [] ∨ (b.entryFor s).desc = s.desc := by
    unfold entryFor
    cases hf : find? s.desc.name b.families with
    | none => exact .inr rfl
    | some e => exact .inl (h.filled _ (mem_of_find? hf))
  have hnames : Ascending (b.push s).2.families := by
    unfold push; dsimp only; split
    · exact h.names.insert
    · exact h.names
  -- every family of the result is the new entry or an old one
  have hmem : ∀ p ∈ (b.push s).2.families,
      p = (s.desc.name, FamilyEntry.add (b.entryFor s) s) ∨ p ∈ b.families := by
    intro p hp
    have hp := hnames.find? hp
    rw [find?_push h] at hp
    split at hp
    · rename_i hn
      have he := Option.some.inj hp
      exact .inl (Prod.ext hn he.symm)
    · exact .inr (mem_of_find? hp)
  refine ⟨hnames, fun p hp => ?_, fun p hp => ?_, fun p hp => ?_, fun p hp => ?_⟩
  · rcases hmem p hp with rfl | hp
    · simp only [FamilyEntry.add_desc]; exact entryFor_desc h s
    · exact h.named p hp
  · rcases hmem p hp with rfl | hp
    · exact FamilyEntry.add_ne_nil s hfill
    · exact h.filled p hp
  · rcases hmem p hp with rfl | hp
    · exact FamilyEntry.add_ascending hkeys s
    · exact h.keys p hp
  · rcases hmem p hp with rfl | hp
    · exact FamilyEntry.add_keyed hkeyed s
    · exact h.keyed p hp

theorem ordered_pushAll (h : b.Ordered) (ss : List Sample) : (b.pushAll ss).Ordered := by
  induction ss generalizing b with
  | nil => exact h
  | cons s ss ih => exact ih (ordered_push h s)

/-- What is held under a name is the fold of the samples of that name. -/
theorem find?_pushAll (h : b.Ordered) (ss : List Sample) :
    find? n (b.pushAll ss).families =
      (ss.filter fun s => s.desc.name = n).foldl
        (fun e s => some (FamilyEntry.add (e.getD ⟨s.desc, []⟩) s)) (find? n b.families) := by
  induction ss generalizing b with
  | nil => rfl
  | cons s ss ih =>
    have ih := ih (ordered_push h s)
    rw [find?_push h] at ih
    change find? n ((b.push s).2.pushAll ss).families = _
    rw [ih]
    by_cases hn : s.desc.name = n
    · subst hn
      simp [entryFor]
    · have hn' : ¬ n = s.desc.name := fun e => hn e.symm
      simp [hn, hn']

theorem find?_empty_pushAll (ss : List Sample) :
    find? n (empty.pushAll ss).families =
      FamilyEntry.ofSamples (ss.filter fun s => s.desc.name = n) :=
  find?_pushAll ordered_empty ss

theorem find?_add {e : FamilyEntry} (ha : Ascending e.samples) (s : Sample) (k : List String) :
    find? k (FamilyEntry.add e s).samples =
      (find? k e.samples).or
        (if e.desc.agrees s.desc && s.labelKey == k then some s else none) := by
  unfold FamilyEntry.add FamilyEntry.accepts SortedTable.has
  cases hd : e.desc.agrees s.desc with
  | false => simp
  | true =>
    cases hs : find? s.labelKey e.samples with
    | none =>
      simp only [Option.isSome_none, Bool.not_false, Bool.and_self, if_true, Bool.true_and]
      rw [find?_insert ha]
      by_cases hk : k = s.labelKey
      · simp [hk, hs]
      · simp [hk, Ne.symm hk]
    | some t =>
      by_cases hk : k = s.labelKey
      · simp [hk, hs]
      · simp [Ne.symm hk]

theorem find?_foldl_add (ss : List Sample) {e : FamilyEntry} (ha : Ascending e.samples) :
    ∃ e', ss.foldl (fun e s => some (FamilyEntry.add (e.getD ⟨s.desc, []⟩) s)) (some e) = some e' ∧
      e'.desc = e.desc ∧ ∀ k, find? k e'.samples =
        (find? k e.samples).or (ss.find? fun s => e.desc.agrees s.desc && s.labelKey == k) := by
  induction ss generalizing e with
  | nil => exact ⟨e, rfl, rfl, by simp⟩
  | cons s ss ih =>
    obtain ⟨e', he, hd, hf⟩ := ih (FamilyEntry.add_ascending ha s)
    refine ⟨e', he, hd.trans (FamilyEntry.add_desc e s), fun k => ?_⟩
    rw [hf, find?_add ha, FamilyEntry.add_desc, List.find?_cons, Option.or_assoc]
    congr 1
    cases e.desc.agrees s.desc && s.labelKey == k <;> rfl

/-- The first sample of a name decides on the descriptor; the first of a key that agrees stays. -/
theorem find?_ofSamples (s : Sample) (ss : List Sample) :
    ∃ e, FamilyEntry.ofSamples (s :: ss) = some e ∧ e.desc = s.desc ∧ ∀ k, find? k e.samples =
      (s :: ss).find? fun t => s.desc.agrees t.desc && t.labelKey == k := by
  obtain ⟨e, he, hd, hf⟩ := find?_foldl_add ss (e := FamilyEntry.add ⟨s.desc, []⟩ s)
    (FamilyEntry.add_ascending .nil s)
  refine ⟨e, he, hd.trans (FamilyEntry.add_desc _ s), fun k => ?_⟩
  rw [hf, find?_add .nil, FamilyEntry.add_desc, List.find?_cons, find?_nil, Option.none_or]
  cases s.desc.agrees s.desc && s.labelKey == k <;> rfl

/-! ## Leaving out names -/

theorem find?_filter_key {β : Type} {t : SortedTable String β} (ha : Ascending t)
    (keep : String → Bool) :
    find? n (t.filter fun p => keep p.1) = if keep n then find? n t else none := by
  have hs : Ascending (t.filter fun p => keep p.1) := ha.sublist List.filter_sublist
  by_cases hk : keep n = true
  · rw [if_pos hk]
    cases hf : find? n t with
    | none =>
      refine find?_eq_none.2 fun p hp => ?_
      exact find?_eq_none.1 hf p (List.mem_filter.1 hp).1
    | some v => exact hs.find? (List.mem_filter.2 ⟨mem_of_find? hf, hk⟩)
  · rw [if_neg hk]
    refine find?_eq_none.2 fun p hp => ?_
    rintro rfl
    exact hk (List.mem_filter.1 hp).2

/-- **Names are apart.** The families of some names are made of the samples of these names. -/
theorem finish_restrict (keep : String → Bool) (ss : List Sample) :
    (empty.pushAll ss).finish.filter (fun f => keep f.name) =
      (empty.pushAll (ss.filter fun s => keep s.desc.name)).finish := by
  have ho := ordered_pushAll ordered_empty ss
  have ho' := ordered_pushAll ordered_empty (ss.filter fun s => keep s.desc.name)
  have key : (empty.pushAll ss).families.filter (fun p => keep p.1) =
      (empty.pushAll (ss.filter fun s => keep s.desc.name)).families := by
    refine eq_of_find? (ho.names.sublist List.filter_sublist) ho'.names fun n => ?_
    rw [find?_filter_key ho.names, find?_empty_pushAll, find?_empty_pushAll, List.filter_filter]
    by_cases hk : keep n = true
    · rw [if_pos hk]
      congr 1
      refine List.filter_congr fun s _ => ?_
      by_cases hn : s.desc.name = n <;> simp [hn, hk]
    · rw [if_neg hk, List.filter_eq_nil_iff.2]
      · rfl
      · intro s _
        by_cases hn : s.desc.name = n <;> simp [hn, hk]
  simp only [finish, ← key, List.filter_map]
  rfl

/-- A family holds metrics, and is described by a sample of its name. -/
theorem exists_sample_of_mem_finish {f : Family} {ss : List Sample}
    (h : f ∈ (empty.pushAll ss).finish) : f.metrics ≠ [] ∧ ∃ s ∈ ss,
      s.desc.name = f.name ∧ s.desc.help = f.help ∧ s.desc.kind = f.kind := by
  simp only [finish, List.mem_map] at h
  obtain ⟨⟨name, e⟩, hp, rfl⟩ := h
  have ho := ordered_pushAll ordered_empty ss
  refine ⟨by simpa [values] using ho.filled _ hp, ?_⟩
  have hf := ho.names.find? hp
  rw [find?_empty_pushAll] at hf
  cases hs : ss.filter fun s => s.desc.name = name with
  | nil => simp [hs, FamilyEntry.ofSamples] at hf
  | cons s rest =>
    have hmem : s ∈ ss.filter fun s => s.desc.name = name := by simp [hs]
    simp only [List.mem_filter, decide_eq_true_eq] at hmem
    obtain ⟨e', he', hd, -⟩ := find?_ofSamples s rest
    rw [hs, he', Option.some.injEq] at hf
    subst hf
    exact ⟨s, hmem.1, hmem.2, by rw [hd], by rw [hd]⟩

/-! ## Distinct names and labels -/

/-- The families of a name: the entry of that name, if there is one. -/
theorem finish_filter_name (ss : List Sample) (n : String) :
    (empty.pushAll ss).finish.filter (fun f => f.name = n) =
      (find? n (empty.pushAll ss).families).toList.map fun e =>
        ⟨n, e.desc.help, e.desc.kind, (values e.samples).map Sample.toMetric⟩ := by
  have ho := ordered_pushAll ordered_empty ss
  have hkey := filter_of_key (q := fun p => p.1 = n) ho.names fun p _ hp => by simpa using hp
  simp only [finish, List.filter_map, Function.comp_def, hkey]
  cases find? n (empty.pushAll ss).families <;> simp

theorem names_finish (b : FamilyBuilder) : b.finish.map (·.name) = keys b.families := by
  simp [finish, keys, Function.comp_def]

theorem nodup_names_finish (ss : List Sample) :
    ((empty.pushAll ss).finish.map (·.name)).Nodup := by
  rw [names_finish]
  exact (ordered_pushAll ordered_empty ss).names.nodup_keys

/-- There is a family for every name that a sample bears. -/
theorem mem_names_finish {ss : List Sample} :
    n ∈ (empty.pushAll ss).finish.map (·.name) ↔ ∃ s ∈ ss, s.desc.name = n := by
  constructor
  · intro h
    obtain ⟨f, hf, rfl⟩ := List.mem_map.1 h
    obtain ⟨-, s, hs, hn, -⟩ := exists_sample_of_mem_finish hf
    exact ⟨s, hs, hn⟩
  · rintro ⟨s, hs, rfl⟩
    have hmem : s ∈ ss.filter fun t => t.desc.name = s.desc.name := by simp [hs]
    have hfind := find?_empty_pushAll (n := s.desc.name) ss
    generalize ss.filter (fun t => t.desc.name = s.desc.name) = mine at hmem hfind
    cases mine with
    | nil => cases hmem
    | cons t mine =>
      obtain ⟨e, he, -⟩ := find?_ofSamples t mine
      rw [he] at hfind
      rw [names_finish]
      exact List.mem_map_of_mem (mem_of_find? hfind)

/-- Samples that stand under different values have different labels. -/
theorem nodup_labels_of_mem_finish {f : Family} {ss : List Sample}
    (h : f ∈ (empty.pushAll ss).finish) : (f.metrics.map (·.labels)).Nodup := by
  simp only [finish, List.mem_map] at h
  obtain ⟨p, hp, rfl⟩ := h
  have ho := ordered_pushAll ordered_empty ss
  have hkeys : (values p.2.samples).map Sample.labelKey = keys p.2.samples := by
    simp only [values, keys, List.map_map]
    exact List.map_congr_left fun q hq => ho.keyed p hp q hq
  have hnodup : ((values p.2.samples).map Sample.labelKey).Nodup := by
    rw [hkeys]
    exact (ho.keys p hp).nodup_keys
  have hlabels : ((values p.2.samples).map Sample.labelPairs).Nodup := by
    refine List.Nodup.of_map (List.map (·.2)) ?_
    rw [List.map_map]
    exact hnodup
  simpa [Sample.toMetric, Function.comp_def] using hlabels

/-! ## Names without labels -/

/-- Of a name that is described first, and without labels, the first sample stays and no other. -/
theorem finish_filter_first {s : Sample} (hs : s.desc.labelNames = []) (ss : List Sample) :
    (empty.pushAll (s :: ss)).finish.filter (fun f => f.name = s.desc.name) =
      [⟨s.desc.name, s.desc.help, s.desc.kind, [⟨[], s.reading⟩]⟩] := by
  have ho := ordered_pushAll ordered_empty (s :: ss)
  have hfold := find?_empty_pushAll (n := s.desc.name) (s :: ss)
  rw [List.filter_cons_of_pos (by simp)] at hfold
  obtain ⟨e, he, hd, hfind⟩ := find?_ofSamples s (ss.filter fun t => t.desc.name = s.desc.name)
  rw [he] at hfold
  have hsamples : e.samples = [([], s)] := by
    refine eq_of_find? (ho.keys _ (mem_of_find? hfold)) (List.pairwise_singleton _ _) fun k => ?_
    rw [hfind]
    by_cases hk : k = []
    · subst hk
      rw [List.find?_cons_of_pos (by simp [Desc.agrees_refl, Sample.labelKey_of_labelNames hs])]
      simp [find?]
    · -- whatever agrees with the first sample has no labels either
      rw [List.find?_eq_none.2 fun t _ ht => ?_]
      · simp [find?, hk]
      · simp only [Bool.and_eq_true, beq_iff_eq] at ht
        exact hk
          (ht.2.symm.trans (Sample.labelKey_of_labelNames (Desc.labelNames_of_agrees ht.1 hs)))
  rw [finish_filter_name, hfold]
  simp [hd, hsamples, values, Sample.toMetric, Sample.labelPairs_of_labelNames hs]

end FamilyBuilder

/-! ## Reading -/

open FamilyBuilder

/-- What some families show under a name and labels. -/
def readings (fs : List Family) (name : String) (labels : List (String × String)) : List Reading :=
  (fs.filter fun f => f.name = name).flatMap fun f =>
    (f.metrics.filter fun m => m.labels = labels).map (·.reading)

theorem readings_append (fs gs : List Family) (name : String) (labels : List (String × String)) :
    readings (fs ++ gs) name labels = readings fs name labels ++ readings gs name labels := by
  simp [readings]

theorem readings_eq_nil {fs : List Family} {name : String} (h : ∀ f ∈ fs, f.name ≠ name)
    (labels : List (String × String)) : readings fs name labels = [] := by
  have : (fs.filter fun f => f.name = name) = [] := by
    refine List.filter_eq_nil_iff.2 fun f hf => ?_
    simpa using h f hf
  simp [readings, this]

/-- The sample that stays under a name and values of labels. -/
def kept (ss : List Sample) (n : String) (key : List String) : Option Sample :=
  match ss.filter fun s => s.desc.name = n with
  | [] => none
  | s :: mine => (s :: mine).find? fun t => s.desc.agrees t.desc && t.labelKey == key

theorem kept_cons_of_ne {s : Sample} {n : String} (h : s.desc.name ≠ n) (ss : List Sample)
    (key : List String) : kept (s :: ss) n key = kept ss n key := by
  simp [kept, h]

/-- What is read is the sample that stays, if its labels are the labels. -/
theorem readings_finish (ss : List Sample) (n : String) (labels : List (String × String)) :
    readings (FamilyBuilder.empty.pushAll ss).finish n labels =
      ((kept ss n (labels.map (·.2))).toList.filter fun s => s.labelPairs = labels).map
        (·.reading) := by
  have ho := ordered_pushAll ordered_empty ss
  have hfold := find?_empty_pushAll (n := n) ss
  rw [readings, finish_filter_name, kept]
  generalize ss.filter (fun s => s.desc.name = n) = mine at hfold ⊢
  cases mine with
  | nil => rw [hfold]; rfl
  | cons s mine =>
    obtain ⟨e, he, -, hfind⟩ := find?_ofSamples s mine
    rw [he] at hfold
    have hin := mem_of_find? hfold
    have hone := filter_of_key (q := fun p => p.2.labelPairs = labels) (k := labels.map (·.2))
      (ho.keys _ hin) fun p hp hq => by
        rw [← ho.keyed _ hin p hp, Sample.labelKey, of_decide_eq_true hq]
    rw [hfold]
    simp only [Option.toList_some, List.map_cons, List.map_nil, List.flatMap_cons, List.flatMap_nil,
      List.append_nil, values, List.map_map, List.filter_map, Function.comp_def, Sample.toMetric,
      ← hfind]
    dsimp only at hone
    rw [hone]
    cases find? (labels.map (·.2)) e.samples with
    | none => rfl
    | some t => by_cases ht : t.labelPairs = labels <;> simp [ht]

/-- Where all samples of a name agree, only the values of the labels tell them apart. -/
theorem kept_of_agrees {d : Desc} {ss : List Sample} {n : String}
    (hd : ∀ s ∈ ss, s.desc.name = n → d.agrees s.desc = true) (key : List String) :
    kept ss n key = ss.find? fun s => s.desc.name = n && s.labelKey == key := by
  have hmine : (ss.find? fun s => s.desc.name = n && s.labelKey == key) =
      (ss.filter fun s => s.desc.name = n).find? fun s => s.labelKey == key := by
    rw [List.find?_filter]
    congr 1
    funext s
    rw [Bool.decide_and, Bool.decide_eq_true, Bool.decide_eq_true]
  have hmem : ∀ s ∈ ss.filter fun s => s.desc.name = n, d.agrees s.desc = true := by
    intro s hs
    exact hd s (List.mem_filter.1 hs).1 (by simpa using (List.mem_filter.1 hs).2)
  rw [hmine, kept]
  generalize ss.filter (fun s => s.desc.name = n) = mine at hmem ⊢
  cases mine with
  | nil => rfl
  | cons s mine =>
    refine List.find?_congr fun t ht => ?_
    rw [Desc.agrees_trans (hmem s (by simp)) (hmem t ht), Bool.true_and]

end MysqlMetrics
