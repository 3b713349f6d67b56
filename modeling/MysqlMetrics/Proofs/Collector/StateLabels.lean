import MysqlMetrics.Proofs.Collector.Processlist
import MysqlMetrics.Proofs.Text.Lowercase
/-!
# States as labels

A thread state becomes a label in small letters, without punctuation, blanks and dashes. Where a
character is left that can be used, the label is one that is not changed again. A state without text
is called unknown, but a state of punctuation alone is not: it leaves an empty label
(`stateLabel_eq_empty_iff`). The states of a process list are those of the rows that have a number
of processes, so samples with an empty state are made exactly where there is such a row
(`state_labels`).
-/
namespace MysqlMetrics.Collector.Processlist

open SortedTable Text

/-! ## One state -/

/-- A state with a text of which nothing can be used. -/
def OnlyPunctuation (state : String) : Prop :=
  state ≠ "" ∧ ∀ c ∈ state.toList, isPunctuation c = true

/-- A character that stays as it is in a label. -/
structure IsKept (c : Char) : Prop where
  lower : IsLower c
  punctuation : isPunctuation c = false
  separator : (c = ' ' || c = '-') = false

section

variable {state : String} {c : Char}

theorem isLower_of_isPunctuation (h : isPunctuation c = true) : c.toNat < 97 ∧ IsLower c := by
  simp only [isPunctuation, Bool.or_eq_true, beq_iff_eq] at h
  rcases h with ((((rfl | rfl) | rfl) | rfl) | rfl) | rfl <;>
    exact ⟨by decide, isLower_of_ascii (by decide) (by decide)⟩

theorem toList_stateLabel (h : state ≠ "") : (stateLabel state).toList =
    ((lowercase state).toList.filter fun c => !isPunctuation c).map fun c =>
      if c = ' ' || c = '-' then '_' else c := by
  rw [stateLabel, if_neg (by simpa using h), String.toList_ofList]

theorem isKept_of_mem_stateLabel (h : c ∈ (stateLabel state).toList) : IsKept c := by
  by_cases hstate : state = ""
  · have hunknown : (unknown.toList.all fun c => c.toNat < 0x80 && !c.isUpper &&
        !isPunctuation c && !(c = ' ' || c = '-')) = true := by decide
    rw [stateLabel, if_pos (by simp [hstate])] at h
    have hc := List.all_eq_true.1 hunknown c h
    simp only [Bool.and_eq_true, decide_eq_true_eq, Bool.not_eq_true'] at hc
    obtain ⟨⟨⟨hascii, hcase⟩, hp⟩, hsep⟩ := hc
    exact ⟨isLower_of_ascii hascii hcase, hp, hsep⟩
  · rw [toList_stateLabel hstate] at h
    obtain ⟨d, hd, rfl⟩ := List.mem_map.1 h
    obtain ⟨hmem, hp⟩ := List.mem_filter.1 hd
    split
    · exact ⟨isLower_of_ascii (by decide) (by decide), by decide, by decide⟩
    · rename_i hsep
      exact ⟨isLower_of_mem_lowercase hmem, by simpa using hp, by simpa using hsep⟩

theorem stateLabel_of_isKept (hne : state ≠ "") (h : ∀ c ∈ state.toList, IsKept c) :
    stateLabel state = state := by
  have hlower : lowercase state = state := lowercase_of_isLower fun c hc => (h c hc).lower
  have hfilter : (state.toList.filter fun c => !isPunctuation c) = state.toList :=
    List.filter_eq_self.2 fun c hc => by simp [(h c hc).punctuation]
  refine String.toList_inj.1 ?_
  rw [toList_stateLabel hne, hlower, hfilter]
  refine (List.map_congr_left fun c hc => ?_).trans (List.map_id _)
  rw [(h c hc).separator]
  rfl

theorem stateLabel_eq_empty_iff : stateLabel state = "" ↔ OnlyPunctuation state := by
  by_cases hstate : state = ""
  · subst hstate
    simp [OnlyPunctuation, stateLabel, unknown]
  · rw [← String.toList_eq_nil_iff, toList_stateLabel hstate, List.map_eq_nil_iff,
      List.filter_eq_nil_iff]
    have hall := forall_mem_lowercase (s := state) (p := (isPunctuation · = true))
      fun _ => isLower_of_isPunctuation
    simpa [OnlyPunctuation, hstate] using hall

/-- Only an empty label is changed again: it is taken for a state without text. -/
theorem stateLabel_stateLabel_iff :
    stateLabel (stateLabel state) = stateLabel state ↔ stateLabel state ≠ "" := by
  constructor
  · intro h hempty
    rw [hempty] at h
    exact absurd h (by decide)
  · exact fun hne => stateLabel_of_isKept hne fun _ => isKept_of_mem_stateLabel

end

/-! ## The states of a process list -/

/-- The states of the rows that count, as the server writes them. -/
def statesOf (rows : List Row) : List String :=
  (rows.filter fun row => (row.numberOf "processes").isSome).map fun row =>
    (row.textOf "state").getD ""

section

variable {α : Type} [Ord α] {key : Group → α} {measure : Group → Float} {groups : List Group}
  {rows : List Row} {s : Sample} {v : String}

theorem mem_keys_total [Std.LawfulEqOrd α] {k : α} :
    k ∈ (total key measure groups).keys ↔ ∃ g ∈ groups, key g = k := by
  induction groups using List.reverseRecOn with
  | nil => simp [total, keys]
  | append_singleton groups g ih =>
    rw [total_append_one, count, mem_keys_upsert, ih]
    simp [or_comm, eq_comm]

/-- Whatever is measured, the keys are those of the groups. -/
theorem keys_total_eq (key : Group → α) (m m' : Group → Float) (groups : List Group) :
    (total key m groups).keys = (total key m' groups).keys := by
  induction groups using List.reverseRecOn with
  -- not `rfl`: it would compare the two ways to count, down to their doubles
  | nil => simp [total]
  | append_singleton groups g ih =>
    rw [total_append_one, total_append_one, count, count]
    exact keys_upsert_congr ih

theorem state_groupsOf : (groupsOf rows).map Group.state = (statesOf rows).map stateLabel := by
  induction rows with
  | nil => rfl
  | cons row rows ih =>
    cases hn : row.numberOf "processes" with
    | none =>
      have hgroup : Group.ofRow row = none := by simp [Group.ofRow, hn]
      simpa [groupsOf, statesOf, hgroup, hn] using ih
    | some n =>
      have hstate : (Group.ofRow row).map Group.state =
          some (stateLabel ((row.textOf "state").getD "")) := by simp [Group.ofRow, hn]
      obtain ⟨g, hg, hgs⟩ := Option.map_eq_some_iff.1 hstate
      simpa [groupsOf, statesOf, hg, hgs, hn] using ih

theorem label_state {d : Desc} (hd : d.labels = ["command", "state"]) (hc : d.constLabels = [])
    (labels : List String) (reading : Reading) :
    (⟨d, labels, reading⟩ : Sample).label "state" = labels[1]? := by
  have hplace : ["command", "state"].findIdx? (· == "state") = some 1 := by decide
  simp [Sample.label, hd, hc, hplace]

/-- Threads and seconds are counted under the same keys, so that no pair is lost beside each
other. -/
theorem keys_zip_total (groups : List Group) :
    ((total Group.stateKey Group.processes groups).zip
      (total Group.stateKey Group.seconds groups)).map (·.1.1) =
        (total Group.stateKey Group.processes groups).keys := by
  have hkeys := keys_total_eq Group.stateKey Group.processes Group.seconds groups
  have hlength := congrArg List.length hkeys
  simp only [keys, List.length_map] at hlength
  calc ((total Group.stateKey Group.processes groups).zip
        (total Group.stateKey Group.seconds groups)).map (·.1.1)
      = (((total Group.stateKey Group.processes groups).zip
          (total Group.stateKey Group.seconds groups)).map Prod.fst).map Prod.fst := by
        rw [List.map_map]
        rfl
    _ = (total Group.stateKey Group.processes groups).keys := by
        rw [List.map_fst_zip hlength.le]
        rfl

theorem exists_pair_iff {labels : List String} :
    (∃ p ∈ (total Group.stateKey Group.processes groups).zip
      (total Group.stateKey Group.seconds groups), p.1.1 = labels) ↔
    ∃ g ∈ groups, g.stateKey = labels := by
  rw [← mem_keys_total, ← keys_zip_total, List.mem_map]

/-- The samples of a state have it in their label, and there are some for each group. -/
theorem state_stateSamples : (∃ s, .ok s ∈ stateSamples groups ∧ s.label "state" = some v) ↔
    ∃ g ∈ groups, g.state = v := by
  have hthreads : ∀ (g : Group) (n : Float), Sample.scalar threads n g.stateKey =
      .ok ⟨threads, g.stateKey, .scalar n⟩ := fun g n => Dispatch.scalar_eq_ok rfl rfl
  have hseconds : ∀ (g : Group) (t : Float), Sample.scalar Processlist.seconds t g.stateKey =
      .ok ⟨Processlist.seconds, g.stateKey, .scalar t⟩ := fun g t => Dispatch.scalar_eq_ok rfl rfl
  constructor
  · rintro ⟨s, hs, hv⟩
    obtain ⟨⟨⟨labels, n⟩, labels', t⟩, hp, hs⟩ := List.mem_flatMap.1 hs
    obtain ⟨g, hg, rfl⟩ := exists_pair_iff.1 ⟨_, hp, rfl⟩
    refine ⟨g, hg, ?_⟩
    simp only [hthreads, hseconds, List.mem_cons, Except.ok.injEq, List.not_mem_nil,
      or_false] at hs
    have hlabel : s.label "state" = some g.state := by
      rcases hs with rfl | rfl <;> exact label_state rfl rfl _ _
    exact Option.some.inj (hlabel.symm.trans hv)
  · rintro ⟨g, hg, rfl⟩
    obtain ⟨⟨⟨labels, n⟩, labels', t⟩, hp, rfl⟩ := exists_pair_iff.2 ⟨g, hg, rfl⟩
    refine ⟨⟨threads, g.stateKey, .scalar n⟩, List.mem_flatMap.2 ⟨_, hp, ?_⟩, ?_⟩
    · simp only [hthreads, List.mem_cons, true_or]
    · exact label_state rfl rfl _ _

/-- Hosts and users have no state. -/
theorem label_of_mem_labelled {desc : Desc} {t : SortedTable String Float} {label : String}
    (hk : desc.kind.isScalar = true) (hl : desc.labels = [label]) (hc : desc.constLabels = [])
    (hne : label ≠ "state") (hs : .ok s ∈ labelled desc t) : s.label "state" = none := by
  obtain ⟨⟨value, n⟩, -, hp⟩ := List.mem_map.1 hs
  have hp : Sample.scalar desc n [value] = .ok s := hp
  rw [Dispatch.scalar_eq_ok hk (by simp [hl])] at hp
  obtain rfl := Except.ok.inj hp
  simp [Sample.label, hl, hc, hne]

/-- The states that samples have are those of the rows. -/
theorem state_samples {args : ArgSet} {ss : List Sample} (h : samples args rows = .ok ss) :
    (∃ s ∈ ss, s.label "state" = some v) ↔ ∃ state ∈ statesOf rows, stateLabel state = v := by
  have hgroups : (∃ g ∈ groupsOf rows, g.state = v) ↔
      ∃ state ∈ statesOf rows, stateLabel state = v := by
    rw [← List.mem_map, ← List.mem_map, state_groupsOf]
  rw [← hgroups, ← state_stateSamples]
  constructor
  · rintro ⟨s, hs, hv⟩
    obtain ⟨x, hx, rfl⟩ := exists_of_mem_mapM h hs
    refine ⟨s, ?_, hv⟩
    rcases List.mem_append.1 hx with hx | hx
    · rcases List.mem_append.1 hx with hx | hx
      · exact hx
      · split at hx
        · rw [label_of_mem_labelled rfl rfl rfl (by decide) hx] at hv
          cases hv
        · cases hx
    · split at hx
      · rw [label_of_mem_labelled rfl rfl rfl (by decide) hx] at hv
        cases hv
      · cases hx
  · rintro ⟨s, hs, hv⟩
    obtain ⟨s', hs', heq⟩ :=
      exists_of_mapM_eq_ok h (List.mem_append_left _ (List.mem_append_left _ hs))
    obtain rfl : s = s' := Except.ok.inj heq
    exact ⟨s, hs', hv⟩

end

/-- **States as labels.** A state without text is unknown. No label of a state has punctuation, a
blank or a dash in it. One is empty exactly if its state has a text of punctuation alone, and just
such a label is not one that stays when it is made a label again. Samples can be made of all rows,
and all their states have a label that is not empty exactly if no row that counts has such a
state. -/
theorem state_labels (args : ArgSet) (rows : List Row) :
    stateLabel "" = unknown ∧
    (∀ state, (∀ c ∈ [';', ',', ':', '.', '(', ')', ' ', '-'], c ∉ (stateLabel state).toList) ∧
      (stateLabel state = "" ↔ OnlyPunctuation state) ∧
      (stateLabel (stateLabel state) = stateLabel state ↔ ¬ OnlyPunctuation state)) ∧
    ∃ ss, samples args rows = .ok ss ∧
      ((∀ s ∈ ss, s.label "state" ≠ some "") ↔
        ∀ state ∈ statesOf rows, ¬ OnlyPunctuation state) := by
  refine ⟨rfl, ?_, ?_⟩
  · intro state
    refine ⟨fun c hc hmem => ?_, stateLabel_eq_empty_iff, ?_⟩
    · obtain ⟨-, hp, hsep⟩ := isKept_of_mem_stateLabel hmem
      simp only [List.mem_cons, List.not_mem_nil, or_false] at hc
      rcases hc with rfl | rfl | rfl | rfl | rfl | rfl | rfl | rfl
      iterate 6 cases hp
      iterate 2 cases hsep
    · rw [stateLabel_stateLabel_iff, ne_eq, stateLabel_eq_empty_iff]
  · obtain ⟨ss, hss, -⟩ := exists_samples args rows
    refine ⟨ss, hss, ?_⟩
    have hempty := state_samples (v := "") hss
    simp only [stateLabel_eq_empty_iff] at hempty
    constructor
    · intro h state hstate hpunct
      obtain ⟨s, hs, hlabel⟩ := hempty.2 ⟨state, hstate, hpunct⟩
      exact h s hs hlabel
    · intro h s hs hlabel
      obtain ⟨state, hstate, hpunct⟩ := hempty.1 ⟨s, hs, hlabel⟩
      exact h state hstate hpunct

/-- One thread in a state without letters. -/
def dotted : List Row :=
  rowsOf ["USER", "HOST", "COMMAND", "STATE", "PROCESSES", "SECONDS"]
    [["app", "db", "Query", "(...)", "1", "2"].map fun text => some (Utf8.encode text)]

/-- Its label is empty, and not the one for states that are unknown. -/
theorem state_labels_dotted :
    OnlyPunctuation "(...)" ∧ stateLabel "(...)" = "" ∧
      stateLabel (stateLabel "(...)") = "unknown" ∧
    ∃ ss, samples (ArgSet.new "info_schema.processlist" definitions) dotted = .ok ss ∧
      ∃ s ∈ ss, s.label "state" = some "" := by
  have hpunct : OnlyPunctuation "(...)" :=
    ⟨by decide, List.all_eq_true.1 (show "(...)".toList.all isPunctuation = true by decide)⟩
  have hstates : statesOf dotted = ["(...)"] := by decide +kernel
  obtain ⟨-, hlabels, ss, hss, hiff⟩ :=
    state_labels (ArgSet.new "info_schema.processlist" definitions) dotted
  have hempty := (hlabels "(...)").2.1.2 hpunct
  refine ⟨hpunct, hempty, by rw [hempty]; rfl, ss, hss, ?_⟩
  by_contra hnone
  push Not at hnone
  rw [hstates] at hiff
  exact hiff.1 hnone _ List.mem_cons_self hpunct

end MysqlMetrics.Collector.Processlist
