import Mathlib
import MysqlMetrics.Proofs.Collector.Builtin
import MysqlMetrics.Proofs.Families.Accepted
import MysqlMetrics.Proofs.Naming
/-!
# Which variables of the server are kept

Status variables and settings become samples one by one, and the builder drops what does not go with
the rest. Variables of a family are told apart by their labels, whatever the server calls them
(`GlobalStatus.compatible_of_belongs`). Any other number has a metric of its own that is named for
it, and a name keeps small letters, digits and underscores only: such a variable clashes with
another that comes to the same name, and nothing else is lost (`variables_kept_iff`).
-/
namespace MysqlMetrics

open FamilyBuilder

/-- At most one label leaves nothing to sort. -/
theorem Sample.labelKey_eq_labels {s : Sample} (hc : s.desc.constLabels = [])
    (hd : s.desc.labels.length ≤ 1) (hl : s.labels.length = s.desc.labels.length) :
    s.labelKey = s.labels := by
  unfold labelKey labelPairs
  rw [hc, List.nil_append]
  cases hn : s.desc.labels with
  | nil =>
    rw [hn] at hl
    simp [List.length_eq_zero_iff.1 hl]
  | cons n ns =>
    rw [hn, List.length_cons] at hd
    obtain rfl : ns = [] := List.length_eq_zero_iff.1 (by omega)
    rw [hn] at hl
    obtain ⟨v, hv⟩ := List.length_eq_one_iff.1 hl
    simp [hv]

namespace Collector

/-- The names of a result in small letters, with their values. -/
def pairsOf (rows : List Row) : List (String × Bytes) :=
  (keyValues rows).map fun (key, raw) => (Text.asciiLower key, raw)

theorem asciiLower_of_mem {rows : List Row} {p : String × Bytes} (h : p ∈ pairsOf rows) :
    Text.asciiLower p.1 = p.1 := by
  obtain ⟨q, -, rfl⟩ := List.mem_map.1 h
  simp [Text.asciiLower, Function.comp_def]

/-! ## Names of descriptors -/

section

variable {subsystem a b help help' : String} {kind kind' : Kind} {labels labels' : List String}

theorem isPrefix_name_describe (hs : subsystem ≠ "") (stem : String) :
    (Naming.root ++ "_" ++ subsystem).toList <+:
      (describe subsystem stem help kind labels).name.toList :=
  Naming.isPrefix_join (show Naming.root ≠ "" by decide) hs stem

/-- Below one subsystem, descriptors that are named for variables differ as the stems do. -/
theorem name_describe_stem_inj (hs : subsystem ≠ "") :
    (describe subsystem (Naming.stem a) help kind labels).name =
      (describe subsystem (Naming.stem b) help' kind' labels').name ↔
        Naming.stem a = Naming.stem b :=
  Naming.join_stem_inj (show Naming.root ≠ "" by decide) hs

end

/-! ## Samples in the making -/

/-- Two samples in the making go together once they are made. -/
def Together (x y : Except MetricError Sample) : Prop :=
  ∀ s t, x = .ok s → y = .ok t → Compatible s t

variable {x y : Except MetricError Sample} {d e : Desc}

theorem Together.symm (h : Together x y) : Together y x := fun s t hs ht => (h t s ht hs).symm

theorem together_of_name_ne (hx : Made (· = d) x) (hy : Made (· = e) y) (h : d.name ≠ e.name) :
    Together x y := by
  rintro s t rfl rfl hn
  obtain ⟨_, hs, rfl⟩ := hx
  obtain ⟨_, ht, rfl⟩ := hy
  cases hs
  cases ht
  exact absurd hn h

theorem together_iff_name_ne (hx : Made (· = d) x) (hy : Made (· = e) y) (hd : d.allLabels = []) :
    Together x y ↔ d.name ≠ e.name := by
  refine ⟨fun h => ?_, together_of_name_ne hx hy⟩
  obtain ⟨s, rfl, rfl⟩ := hx
  obtain ⟨t, rfl, rfl⟩ := hy
  exact (compatible_iff_name_ne hd).1 (h s t rfl rfl)

theorem exists_made_of_mem {ds : List Desc} {xs : List (Except MetricError Sample)}
    (h : List.Forall₂ (fun d x => Made (· = d) x) ds xs) {x : Except MetricError Sample}
    (hx : x ∈ xs) : ∃ d ∈ ds, Made (· = d) x := by
  induction h with
  | nil => cases hx
  | @cons d y ds ys hy _ ih =>
    rcases List.mem_cons.1 hx with rfl | hx
    · exact ⟨d, by simp, hy⟩
    · obtain ⟨e, he, hmade⟩ := ih hx
      exact ⟨e, List.mem_cons_of_mem _ he, hmade⟩

/-- Samples under different names go together. -/
theorem pairwise_together {ds : List Desc} {xs : List (Except MetricError Sample)}
    (h : List.Forall₂ (fun d x => Made (· = d) x) ds xs) (hn : (ds.map (·.name)).Nodup) :
    xs.Pairwise Together := by
  induction h with
  | nil => exact .nil
  | cons hx hxs ih =>
    rw [List.map_cons, List.nodup_cons] at hn
    refine .cons (fun y hy => ?_) (ih hn.2)
    obtain ⟨e, he, hmade⟩ := exists_made_of_mem hxs hy
    exact together_of_name_ne hx hmade fun heq => hn.1 (List.mem_map.2 ⟨e, he, heq.symm⟩)

variable {pairs : List (String × Bytes)} {infos : List (Except MetricError Sample)}
  {f : String × Bytes → Option (Except MetricError Sample)} {ss : List Sample}

/-- If the information is out of the way of all variables, all samples are kept exactly if those of
any two variables go together. -/
theorem kept_iff_together (hnodup : (pairs.map (·.1)).Nodup)
    (hss : (pairs.filterMap f ++ infos).mapM id = .ok ss) (hinfos : infos.Pairwise Together)
    (hcross : ∀ p ∈ pairs, ∀ x, f p = some x → ∀ y ∈ infos, Together x y) :
    (empty.pushAll ss).dropped = 0 ↔ ∀ p ∈ pairs, ∀ q ∈ pairs, p ≠ q →
      ∀ x y, f p = some x → f q = some y → Together x y := by
  have hall : ss.Pairwise Compatible ↔ (pairs.filterMap f ++ infos).Pairwise Together := by
    have hmap := mapM_eq_ok.1 hss
    rw [List.map_id] at hmap
    rw [hmap, List.pairwise_map]
    simp [Together]
  rw [dropped_eq_zero_iff, hall, List.pairwise_append, List.pairwise_filterMap]
  constructor
  · rintro ⟨hpairs, -, -⟩ p hp q hq hne x y hx hy
    have _ : Std.Symm fun p q => ∀ x, f p = some x → ∀ y, f q = some y → Together x y :=
      ⟨fun p q h x hx y hy => (h y hy x hx).symm⟩
    exact hpairs.forall hp hq hne x hx y hy
  · intro h
    refine ⟨?_, hinfos, fun x hx y hy => ?_⟩
    · refine (List.pairwise_map.1 hnodup).imp_of_mem fun {p q} hp hq hne x hx y hy => ?_
      exact h p hp q hq (fun he => hne (congrArg Prod.fst he)) x y hx hy
    · obtain ⟨p, hp, hx⟩ := List.mem_filterMap.1 hx
      exact hcross p hp x hx y hy

namespace GlobalStatus

variable {p q : String × Bytes} {key : String} {raw : Bytes}

/-- No rule takes the key, and no metric is made for it alone. -/
structure Plain (key : String) : Prop where
  latency : key ≠ "wsrep_evs_repl_latency"
  page : Text.after? "innodb_buffer_pool_pages_" key = none
  rule : LabelRule.best rules key = none

/-- A number that no rule takes, and another variable whose metric has the name that is made for
it. -/
def Clash (p q : String × Bytes) : Prop :=
  Plain p.1 ∧ (Status.ofBytes p.2).isSome = true ∧
    ∃ s, sampleOf q.1 q.2 = some (.ok s) ∧ s.desc.name = (genericDesc p.1).name

/-! ### Variables that no rule takes -/

theorem Plain.sampleOf (h : Plain key) : sampleOf key raw =
    (Status.ofBytes raw).map fun value => Sample.scalar (genericDesc key) value [] := by
  unfold GlobalStatus.sampleOf
  rw [if_neg (by simpa using h.latency), h.page, h.rule]
  cases Status.ofBytes raw <;> rfl

theorem Plain.made (h : Plain key) (hx : GlobalStatus.sampleOf key raw = some x) :
    (Status.ofBytes raw).isSome = true ∧ Made (· = genericDesc key) x := by
  rw [h.sampleOf] at hx
  obtain ⟨value, hvalue, rfl⟩ := Option.map_eq_some_iff.1 hx
  exact ⟨by rw [hvalue]; rfl, made_scalar rfl rfl rfl⟩

theorem Plain.together_iff (h : Plain p.1) (hx : GlobalStatus.sampleOf p.1 p.2 = some x)
    (hy : GlobalStatus.sampleOf q.1 q.2 = some y) : Together x y ↔ ¬ Clash p q := by
  obtain ⟨hsome, hmade⟩ := h.made hx
  obtain ⟨t, rfl, -⟩ := made_sampleOf hy
  rw [together_iff_name_ne hmade ⟨t, rfl, rfl⟩ rfl]
  simp [Clash, h, hsome, hy, eq_comm]

theorem Clash.exists_sampleOf (h : Clash p q) : ∃ x, GlobalStatus.sampleOf p.1 p.2 = some x := by
  obtain ⟨value, hvalue⟩ := Option.isSome_iff_exists.1 h.2.1
  exact ⟨_, by rw [h.1.sampleOf, hvalue]; rfl⟩

theorem Plain.clash_iff (hp : Plain p.1) (hq : Plain q.1) : Clash p q ↔
    (Status.ofBytes p.2).isSome = true ∧ (Status.ofBytes q.2).isSome = true ∧
      Naming.stem p.1 = Naming.stem q.1 := by
  constructor
  · rintro ⟨-, hsome, s, hs, hn⟩
    obtain ⟨hsome', _, ⟨⟩, hd⟩ := hq.made hs
    rw [hd] at hn
    exact ⟨hsome, hsome', ((name_describe_stem_inj (by decide)).1 hn).symm⟩
  · rintro ⟨hsome, hsome', hstem⟩
    obtain ⟨value, hvalue⟩ := Option.isSome_iff_exists.1 hsome'
    refine ⟨hp, hsome, ⟨genericDesc q.1, [], .scalar value⟩, ?_, ?_⟩
    · rw [hq.sampleOf, hvalue]
      rfl
    · exact (name_describe_stem_inj (by decide)).2 hstem.symm

/-! ### Families -/

/-- The starts of keys, with the descriptors that belong to them. -/
def families : List LabelRule :=
  rules ++
    [⟨"innodb_buffer_pool_pages_dirty", dirtyPages⟩, ⟨"innodb_buffer_pool_pages_", pages⟩,
     ⟨"innodb_buffer_pool_pages_", pageChanges⟩, ⟨"wsrep_evs_repl_latency", clusterLatency⟩]

theorem families_nodup : (families.map (·.desc.name)).Nodup := by decide

theorem families_labels : ∀ f ∈ families, f.desc.constLabels = [] ∧ f.desc.labels.length ≤ 1 := by
  decide

/-- A sample of a family, whose labels are what follows the start of the key. -/
def Belongs (key : String) (s : Sample) : Prop := ∃ f ∈ families, s.desc = f.desc ∧
  key = f.start ++ String.join s.labels ∧ s.labels.length = f.desc.labels.length

theorem belongs_of_pageSample {state : String} {value : Float}
    (h : pageSample state value = some x) :
    ∃ s, x = .ok s ∧ Belongs ("innodb_buffer_pool_pages_" ++ state) s := by
  unfold pageSample at h
  split at h
  · cases h
    exact ⟨_, rfl, ⟨"innodb_buffer_pool_pages_", pages⟩, by simp [families], rfl, by simp, rfl⟩
  · split at h
    · rename_i hdirty
      cases h
      rw [eq_of_beq hdirty]
      -- the state is part of the start here, as the metric has no label to tell it
      exact ⟨_, rfl, ⟨"innodb_buffer_pool_pages_dirty", dirtyPages⟩, by simp [families], rfl, rfl,
        rfl⟩
    · split at h
      · cases h
      · cases h
        exact ⟨_, rfl, ⟨"innodb_buffer_pool_pages_", pageChanges⟩, by simp [families], rfl, by simp,
          rfl⟩

theorem plain_or_belongs (hlow : Text.asciiLower key = key) (h : sampleOf key raw = some x) :
    Plain key ∨ ∃ s, x = .ok s ∧ Belongs key s := by
  unfold sampleOf at h
  split at h
  · rename_i hkey
    unfold latencySample at h
    split at h
    · cases h
      refine .inr ⟨_, rfl, ⟨"wsrep_evs_repl_latency", clusterLatency⟩, by simp [families], rfl, ?_,
        rfl⟩
      simpa using hkey
    · cases h
  · rename_i hkey
    obtain ⟨value, -, h⟩ := Option.bind_eq_some_iff.1 h
    split at h
    · rename_i state hstate
      rw [Text.after?_eq_some.1 hstate]
      exact .inr (belongs_of_pageSample h)
    · rename_i hpage
      split at h
      · rename_i rule label hbest
        obtain ⟨hmem, hstart, -⟩ := LabelRule.best_eq_some hbest
        obtain ⟨hk, hl⟩ := rules_spec rule hmem
        have hlen : [label].length = rule.desc.labels.length := hl.symm
        have hs : Sample.scalar rule.desc value [label] =
            .ok ⟨rule.desc, [label], .scalar value⟩ := by
          rw [Sample.scalar, if_pos hk, Sample.build, if_pos hlen]
        -- rules look at the key in small letters, and it is in small letters already
        have hkey : key = rule.start ++ String.join [label] := by simp [← hstart, hlow]
        cases h
        exact .inr ⟨_, hs, rule, List.mem_append_left _ hmem, rfl, hkey, hlen⟩
      · rename_i hrule
        exact .inl ⟨by simpa using hkey, hpage, hrule⟩

/-- Keys of families are told apart by their labels. -/
theorem compatible_of_belongs {k k' : String} {s t : Sample} (hs : Belongs k s) (ht : Belongs k' t)
    (hne : k ≠ k') : Compatible s t := by
  obtain ⟨f, hf, hsd, hk, hsl⟩ := hs
  obtain ⟨g, hg, htd, hk', htl⟩ := ht
  intro hn
  -- one name is one family, so that only the labels can differ
  obtain rfl : f = g := List.inj_on_of_nodup_map families_nodup hf hg (by rw [← hsd, ← htd, hn])
  obtain ⟨hc, hd⟩ := families_labels f hf
  refine ⟨hsd.trans htd.symm ▸ .refl _, fun hkey => hne ?_⟩
  rw [Sample.labelKey_eq_labels (hsd ▸ hc) (hsd ▸ hd) (hsd ▸ hsl),
    Sample.labelKey_eq_labels (htd ▸ hc) (htd ▸ hd) (htd ▸ htl)] at hkey
  rw [hk, hk', hkey]

theorem together_iff (hp : Text.asciiLower p.1 = p.1) (hq : Text.asciiLower q.1 = q.1)
    (hne : p.1 ≠ q.1) (hx : sampleOf p.1 p.2 = some x) (hy : sampleOf q.1 q.2 = some y) :
    Together x y ↔ ¬ Clash p q ∧ ¬ Clash q p := by
  constructor
  · intro h
    refine ⟨fun hc => ?_, fun hc => ?_⟩
    · exact (hc.1.together_iff hx hy).1 h hc
    · exact (hc.1.together_iff hy hx).1 h.symm hc
  · rintro ⟨hpq, hqp⟩
    rcases plain_or_belongs hp hx with hplain | ⟨s, rfl, hs⟩
    · exact (hplain.together_iff hx hy).2 hpq
    · rcases plain_or_belongs hq hy with hplain | ⟨t, rfl, ht⟩
      · exact ((hplain.together_iff hy hx).2 hqp).symm
      · rintro _ _ ⟨⟩ ⟨⟩
        exact compatible_of_belongs hs ht hne

theorem together_clusterSample {pairs : List (String × Bytes)} (hp : Text.asciiLower p.1 = p.1)
    (hx : sampleOf p.1 p.2 = some x) (hy : y ∈ (clusterSample pairs).toList) : Together x y := by
  have hmade := made_clusterSample y hy
  rcases plain_or_belongs hp hx with hplain | ⟨s, rfl, f, hf, hd, -⟩
  · have hother :
        ¬ (Naming.root ++ "_" ++ subsystem).toList <+: clusterInfo.name.toList := by decide
    have hown : (Naming.root ++ "_" ++ subsystem).toList <+: (genericDesc p.1).name.toList :=
      isPrefix_name_describe (by decide) _
    exact together_of_name_ne (hplain.made hx).2 hmade fun hn => hother (hn ▸ hown)
  · have hother : ∀ f ∈ families, f.desc.name ≠ clusterInfo.name := by decide
    exact together_of_name_ne ⟨s, rfl, hd⟩ hmade (hother f hf)

theorem samples_kept_iff {rows : List Row} (h : ((pairsOf rows).map (·.1)).Nodup) :
    ∃ ss, samples rows = .ok ss ∧ ((empty.pushAll ss).dropped = 0 ↔
      ∀ p ∈ pairsOf rows, ∀ q ∈ pairsOf rows, p ≠ q → ¬ Clash p q) := by
  obtain ⟨ss, hss, -⟩ := exists_samples rows
  have hpairwise : (clusterSample (pairsOf rows)).toList.Pairwise Together := by
    cases clusterSample (pairsOf rows) <;> simp
  refine ⟨ss, hss, (kept_iff_together h hss hpairwise ?_).trans ?_⟩
  · intro p hp x hx y hy
    exact together_clusterSample (asciiLower_of_mem hp) hx hy
  · have hkey : ∀ p ∈ pairsOf rows, ∀ q ∈ pairsOf rows, p ≠ q → p.1 ≠ q.1 :=
      fun p hp q hq hne he => hne (List.inj_on_of_nodup_map h hp hq he)
    constructor
    · intro hall p hp q hq hne hc
      obtain ⟨s, hs, -⟩ := hc.2.2
      obtain ⟨x, hx⟩ := hc.exists_sampleOf
      have htogether := hall p hp q hq hne x _ hx hs
      exact (hc.1.together_iff hx hs).1 htogether hc
    · intro hc p hp q hq hne x y hx hy
      exact (together_iff (asciiLower_of_mem hp) (asciiLower_of_mem hq) (hkey p hp q hq hne) hx
        hy).2 ⟨hc p hp q hq hne, hc q hq p hp hne.symm⟩

end GlobalStatus

namespace GlobalVariables

variable {p q : String × Bytes}

/-- A setting that is not of text and has a number for a value. -/
def Shown (p : String × Bytes) : Prop := p.1 ∉ textVariables ∧ (Status.ofBytes p.2).isSome = true

/-- Two settings have numbers, and their names come to one stem. -/
def Clash (p q : String × Bytes) : Prop :=
  Shown p ∧ Shown q ∧ Naming.stem p.1 = Naming.stem q.1

theorem shown_of_numberSample (h : numberSample p.1 p.2 = some x) : Shown p := by
  unfold numberSample at h
  split at h
  · cases h
  · rename_i htext
    obtain ⟨value, hvalue, -⟩ := Option.map_eq_some_iff.1 h
    exact ⟨mt List.contains_iff_mem.2 htext, by rw [hvalue]; rfl⟩

theorem Shown.exists_numberSample (h : Shown p) : ∃ x, numberSample p.1 p.2 = some x := by
  obtain ⟨value, hvalue⟩ := Option.isSome_iff_exists.1 h.2
  unfold numberSample
  rw [if_neg (mt List.contains_iff_mem.1 h.1), hvalue]
  exact ⟨_, rfl⟩

theorem together_iff (hx : numberSample p.1 p.2 = some x) (hy : numberSample q.1 q.2 = some y) :
    Together x y ↔ ¬ Clash p q := by
  have hp := shown_of_numberSample hx
  have hq := shown_of_numberSample hy
  have hstem : (genericDesc p.1).name = (genericDesc q.1).name ↔
      Naming.stem p.1 = Naming.stem q.1 := name_describe_stem_inj (by decide)
  rw [together_iff_name_ne (made_numberSample hx) (made_numberSample hy) rfl, Ne, hstem]
  simp [Clash, hp, hq]

/-! ### Information -/

/-- The descriptors of information. -/
def infoDescs : List Desc := [versionInfo, isolation, clusterInfo, cacheSize]

/-- What a server has to say of itself is under some of these descriptors, and each at most once. -/
theorem infoSamples_sublist (text : String → Option String) : ∃ xs,
    (infoSamples text).Sublist xs ∧ List.Forall₂ (fun d x => Made (· = d) x) infoDescs xs := by
  have hone : ∀ {α : Type} (o : Option α) (a : α) (g : α → Except MetricError Sample),
      (o.map g).toList.Sublist [g (o.getD a)] := by
    intro α o a g
    cases o <;> simp
  refine ⟨_, (((List.Sublist.refl _).append (hone _ "" _)).append (hone _ "" _)).append
    (hone _ zero _), ?_⟩
  refine .cons ?_ (.cons ?_ (.cons ?_ (.cons ?_ .nil)))
  all_goals exact made_scalar rfl rfl rfl

theorem infoSamples_spec (text : String → Option String) :
    (infoSamples text).Pairwise Together ∧
      ∀ key x, Made (· = genericDesc key) x → ∀ y ∈ infoSamples text, Together x y := by
  obtain ⟨xs, hsub, hxs⟩ := infoSamples_sublist text
  refine ⟨(pairwise_together hxs (by decide)).sublist hsub, fun key x hx y hy => ?_⟩
  obtain ⟨d, hd, hmade⟩ := exists_made_of_mem hxs (hsub.subset hy)
  have hother : ∀ d ∈ infoDescs,
      ¬ (Naming.root ++ "_" ++ "global_variables").toList <+: d.name.toList := by decide
  have hown : (Naming.root ++ "_" ++ "global_variables").toList <+: (genericDesc key).name.toList :=
    isPrefix_name_describe (by decide) _
  exact together_of_name_ne hx hmade fun hn => hother d hd (hn ▸ hown)

theorem samples_kept_iff {rows : List Row} (h : ((pairsOf rows).map (·.1)).Nodup) :
    ∃ ss, samples rows = .ok ss ∧ ((empty.pushAll ss).dropped = 0 ↔
      ∀ p ∈ pairsOf rows, ∀ q ∈ pairsOf rows, p ≠ q → ¬ Clash p q) := by
  obtain ⟨hinfos, hcross⟩ := infoSamples_spec (textOf (pairsOf rows))
  obtain ⟨ss, hss, -⟩ := exists_samples rows
  refine ⟨ss, hss, (kept_iff_together h hss hinfos ?_).trans ?_⟩
  · intro p _ x hx y hy
    exact hcross p.1 x (made_numberSample hx) y hy
  · refine forall₅_congr fun p hp q hq hne => ⟨fun hall hc => ?_, fun hc x y hx hy => ?_⟩
    · obtain ⟨x, hx⟩ := hc.1.exists_numberSample
      obtain ⟨y, hy⟩ := hc.2.1.exists_numberSample
      exact (together_iff hx hy).1 (hall x y hx hy) hc
    · exact (together_iff hx hy).2 hc

end GlobalVariables

/-! ## Both collectors -/

/-- **What is lost of the server's variables.** If their names differ in more than letter case, all
samples of a result can be made, and all of them are kept exactly if no two variables clash. -/
theorem variables_kept_iff {rows : List Row} (h : ((pairsOf rows).map (·.1)).Nodup) :
    (∃ ss, GlobalStatus.samples rows = .ok ss ∧ ((empty.pushAll ss).dropped = 0 ↔
      ∀ p ∈ pairsOf rows, ∀ q ∈ pairsOf rows, p ≠ q → ¬ GlobalStatus.Clash p q)) ∧
    ∃ ss, GlobalVariables.samples rows = .ok ss ∧ ((empty.pushAll ss).dropped = 0 ↔
      ∀ p ∈ pairsOf rows, ∀ q ∈ pairsOf rows, p ≠ q → ¬ GlobalVariables.Clash p q) :=
  ⟨GlobalStatus.samples_kept_iff h, GlobalVariables.samples_kept_iff h⟩

/-- One setting under the name that a component gives it and under that of the older plugin. -/
def twoSpellings : List Row :=
  rowsOf ["Variable_name", "Value"]
    [[some (Utf8.encode "validate_password.length"), some (Utf8.encode "8")],
     [some (Utf8.encode "validate_password_length"), some (Utf8.encode "8")]]

/-- A dot and an underscore come to one name, and one of the two values is lost. -/
theorem not_kept_twoSpellings : ((pairsOf twoSpellings).map (·.1)).Nodup ∧
    (∃ ss, GlobalStatus.samples twoSpellings = .ok ss ∧ (empty.pushAll ss).dropped ≠ 0) ∧
    ∃ ss, GlobalVariables.samples twoSpellings = .ok ss ∧ (empty.pushAll ss).dropped ≠ 0 := by
  have hpairs : pairsOf twoSpellings = [("validate_password.length", Utf8.encode "8"),
      ("validate_password_length", Utf8.encode "8")] := by decide +kernel
  have hnodup : ((pairsOf twoSpellings).map (·.1)).Nodup := by
    rw [hpairs]
    decide
  have hnumber : (Status.ofBytes (Utf8.encode "8")).isSome = true := by decide +kernel
  have hstem : Naming.stem "validate_password.length" = Naming.stem "validate_password_length" := by
    decide +kernel
  obtain ⟨⟨ss, hss, hstatus⟩, ts, hts, hvariables⟩ := variables_kept_iff hnodup
  rw [hpairs] at hstatus hvariables
  refine ⟨hnodup, ⟨ss, hss, fun h => ?_⟩, ts, hts, fun h => ?_⟩
  · refine hstatus.1 h _ (.head _) _ (.tail _ (.head _)) (by decide) ?_
    refine (GlobalStatus.Plain.clash_iff ?_ ?_).2 ⟨hnumber, hnumber, hstem⟩
    · exact ⟨by decide, by decide, rfl⟩
    · exact ⟨by decide, by decide, rfl⟩
  · refine hvariables.1 h _ (.head _) _ (.tail _ (.head _)) (by decide) ?_
    exact ⟨⟨by decide, hnumber⟩, ⟨by decide, hnumber⟩, hstem⟩

end Collector
end MysqlMetrics
