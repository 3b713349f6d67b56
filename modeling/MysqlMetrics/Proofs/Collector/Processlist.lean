import Mathlib
import MysqlMetrics.Proofs.Collector.Builtin
import MysqlMetrics.Proofs.Decimal.Exact
import MysqlMetrics.Proofs.Row.Dispatch
import MysqlMetrics.Proofs.Tally
/-!
# Processes added up

The rows of a process list are added up by state, by host and by user, each after its own way to
write the key. As long as the sums stay where doubles are exact, every table says how many processes
there are with each key and with all keys together (`AddsUp`), and the samples are these tables in
the order of their keys, whatever the order of the rows (`samples_addUp`).
-/
namespace MysqlMetrics.Collector.Processlist

open Decimal SortedTable

variable {α M : Type} [Ord α] [AddCommMonoid M] {key : Group → α} {measure : Group → Float}
  {number : Group → M} {groups groups' : List Group} {rows : List Row}
  {processes seconds : Group → Nat}

/-- The rows that have a number of processes. -/
def groupsOf (rows : List Row) : List Group := rows.filterMap Group.ofRow

def Group.stateKey (g : Group) : List String := [g.command, g.state]

/-- What the doubles of the rows are as whole numbers, with sums below the point where doubles are
no longer exact. -/
structure Whole (groups : List Group) (processes seconds : Group → Nat) : Prop where
  isWhole_processes : ∀ g ∈ groups, IsWhole g.processes (processes g)
  isWhole_seconds : ∀ g ∈ groups, IsWhole g.seconds (seconds g)
  processes_lt : (groups.map processes).sum < 2 ^ 53
  seconds_lt : (groups.map seconds).sum < 2 ^ 53

/-- A table of numbers by key that says of some groups what is to be said: for each key of a group
the sum over the groups with it, so that the numbers together are the sum over all groups. -/
structure AddsUp [DecidableEq α] (key : Group → α) (number : Group → M) (groups : List Group)
    (t : SortedTable α M) : Prop where
  ascending : t.Ascending
  byKey : ∀ k, t.find? k = if sharing key k groups = [] then none
    else some ((sharing key k groups).map number).sum
  all : t.values.sum = (groups.map number).sum

theorem addsUp_tally [Std.TransOrd α] [Std.LawfulEqOrd α] [DecidableEq α] (key : Group → α)
    (number : Group → M) (groups : List Group) :
    AddsUp key number groups (tally key number groups) :=
  ⟨ascending_tally key number groups, find?_tally key number groups, sum_tally key number groups⟩

/-! ## Doubles that add up -/

theorem total_append_one (g : Group) : total key measure (groups ++ [g]) =
    count (key g) (measure g) (total key measure groups) :=
  List.foldl_append

/-- Doubles are added up as the whole numbers that they are. -/
theorem total_eq_map_tally (key : Group → α) (number : Group → M) (f : M →+ Nat)
    (hw : ∀ g ∈ groups, IsWhole (measure g) (f (number g)))
    (hlt : (groups.map fun g => f (number g)).sum < 2 ^ 53) :
    total key measure groups = (tally key number groups).map fun p => (p.1, ofNat (f p.2)) := by
  induction groups using List.reverseRecOn with
  | nil => rfl
  | append_singleton groups g ih =>
    have hg := hw g (by simp)
    rw [List.map_append, List.sum_append] at hlt
    simp only [List.map_cons, List.map_nil, List.sum_singleton] at hlt
    have hbefore := ih (fun x hx => hw x (List.mem_append_left _ hx)) (by omega)
    rw [total_append_one, hbefore, tally_append_one, count, add]
    refine (upsert_map (fun n => ofNat (f n)) ?_ fun p hp => ?_).symm
    · have hnew := ofNat_add (m := 0) hg (by omega)
      simp only [Option.getD_none, zero_add] at hnew ⊢
      exact hnew.symm
    · have hle : f p.2 ≤ (groups.map fun g => f (number g)).sum := by
        have hmem : f p.2 ∈ (tally key number groups).values.map f :=
          List.mem_map_of_mem (List.mem_map_of_mem hp)
        have hsum : ((tally key number groups).values.map f).sum =
            (groups.map fun g => f (number g)).sum := by
          rw [List.sum_hom, sum_tally, ← List.sum_hom, List.map_map]
          rfl
        exact hsum ▸ List.le_sum_of_mem hmem
      have hold := ofNat_add (m := f p.2) hg (by omega)
      simp only [Option.getD_some, map_add]
      exact hold.symm

/-! ## Tables as samples -/

/-- The numbers of processes by state, with their seconds, by host and by user. -/
structure Tables where
  states : SortedTable (List String) (Nat × Nat)
  hosts : SortedTable String Nat
  users : SortedTable String Nat

def stateSection (t : SortedTable (List String) (Nat × Nat)) : List Sample :=
  t.flatMap fun (labels, n) =>
    [⟨threads, labels, .scalar (ofNat n.1)⟩, ⟨Processlist.seconds, labels, .scalar (ofNat n.2)⟩]

def countSection (desc : Desc) (t : SortedTable String Nat) : List Sample :=
  t.map fun (label, n) => ⟨desc, [label], .scalar (ofNat n)⟩

/-- Threads and seconds of each state, then the hosts and the users if they are asked for. -/
def Tables.samples (t : Tables) (hosts users : Bool) : List Sample :=
  stateSection t.states ++ (if hosts then countSection byHost t.hosts else []) ++
    (if users then countSection byUser t.users else [])

/-- Tables that add up what they should. -/
structure Tables.Of (groups : List Group) (processes seconds : Group → Nat) (t : Tables) :
    Prop where
  states : AddsUp Group.stateKey (fun g => (processes g, seconds g)) groups t.states
  hosts : AddsUp Group.host processes groups t.hosts
  users : AddsUp Group.user processes groups t.users

/-- What tells samples apart: the metric and its label values. -/
def series (s : Sample) : String × List String := (s.desc.name, s.labels)

/-- The tables that are there in fact. -/
def tablesOf (groups : List Group) (processes seconds : Group → Nat) : Tables where
  states := tally Group.stateKey (fun g => (processes g, seconds g)) groups
  hosts := tally Group.host processes groups
  users := tally Group.user processes groups

theorem tablesOf_of (groups : List Group) (processes seconds : Group → Nat) :
    (tablesOf groups processes seconds).Of groups processes seconds :=
  ⟨addsUp_tally .., addsUp_tally .., addsUp_tally ..⟩

theorem tablesOf_perm (h : groups.Perm groups') (processes seconds : Group → Nat) :
    tablesOf groups processes seconds = tablesOf groups' processes seconds := by
  unfold tablesOf
  rw [tally_perm h, tally_perm h, tally_perm h]

theorem Whole.perm (h : Whole groups processes seconds) (hp : groups.Perm groups') :
    Whole groups' processes seconds where
  isWhole_processes g hg := h.isWhole_processes g (hp.mem_iff.2 hg)
  isWhole_seconds g hg := h.isWhole_seconds g (hp.mem_iff.2 hg)
  processes_lt := (hp.map processes).sum_eq ▸ h.processes_lt
  seconds_lt := (hp.map seconds).sum_eq ▸ h.seconds_lt

theorem stateSamples_eq (h : Whole groups processes seconds) : stateSamples groups =
    (stateSection (tablesOf groups processes seconds).states).map .ok := by
  have hthreads := total_eq_map_tally Group.stateKey (fun g => (processes g, seconds g))
    (AddMonoidHom.fst Nat Nat) h.isWhole_processes h.processes_lt
  have hseconds := total_eq_map_tally Group.stateKey (fun g => (processes g, seconds g))
    (AddMonoidHom.snd Nat Nat) h.isWhole_seconds h.seconds_lt
  change ((total Group.stateKey Group.processes groups).zip
    (total Group.stateKey Group.seconds groups)).flatMap _ = _
  rw [hthreads, hseconds, List.zip_map', List.flatMap_map, stateSection, List.map_flatMap]
  refine List.flatMap_congr fun p hp => ?_
  obtain ⟨g, -, hg⟩ := exists_of_mem_tally hp
  obtain ⟨labels, n⟩ := p
  obtain rfl : [g.command, g.state] = labels := hg
  rfl

theorem labelled_eq (desc : Desc) (hk : desc.kind.isScalar = true) (hl : 1 = desc.labels.length)
    (key : Group → String) (h : Whole groups processes seconds) :
    labelled desc (total key Group.processes groups) =
      (countSection desc (tally key processes groups)).map .ok := by
  rw [total_eq_map_tally key processes (AddMonoidHom.id Nat) h.isWhole_processes h.processes_lt,
    labelled, countSection, List.map_map, List.map_map]
  refine List.map_congr_left fun p _ => ?_
  exact Dispatch.scalar_eq_ok hk hl

/-- The samples are the tables, one section for each. -/
theorem samples_eq (h : Whole (groupsOf rows) processes seconds) (args : ArgSet) :
    samples args rows = .ok ((tablesOf (groupsOf rows) processes seconds).samples
      (args.bool "processes_by_host") (args.bool "processes_by_user")) := by
  have hhosts := labelled_eq byHost rfl rfl Group.host h
  have husers := labelled_eq byUser rfl rfl Group.user h
  have hstates := stateSamples_eq h
  refine mapM_eq_ok.2 ?_
  rw [List.map_id, Tables.samples, List.map_append, List.map_append]
  refine congrArg₂ (· ++ ·) (congrArg₂ (· ++ ·) hstates ?_) ?_
  · split
    · exact hhosts
    · rfl
  · split
    · exact husers
    · rfl

theorem series_stateSection (t : SortedTable (List String) (Nat × Nat)) :
    (stateSection t).map series =
      t.keys.flatMap fun labels =>
        [(threads.name, labels), (Processlist.seconds.name, labels)] := by
  rw [stateSection, List.map_flatMap, keys, List.flatMap_map]
  rfl

theorem series_countSection (desc : Desc) (t : SortedTable String Nat) :
    (countSection desc t).map series = t.keys.map fun label => (desc.name, [label]) := by
  rw [countSection, keys, List.map_map, List.map_map]
  rfl

/-- The four metrics have names of their own. -/
theorem nodup_metrics :
    [threads.name, Processlist.seconds.name, byHost.name, byUser.name].Nodup := by
  decide

theorem metric_of_mem_states {t : SortedTable (List String) (Nat × Nat)}
    {q : String × List String} (hq : q ∈ (stateSection t).map series) :
    q.1 = threads.name ∨ q.1 = Processlist.seconds.name := by
  rw [series_stateSection] at hq
  obtain ⟨labels, -, hq⟩ := List.mem_flatMap.1 hq
  simp only [List.mem_cons, List.not_mem_nil, or_false] at hq
  exact hq.imp (congrArg Prod.fst) (congrArg Prod.fst)

theorem metric_of_mem_counts {desc : Desc} {t : SortedTable String Nat} {q : String × List String}
    (hq : q ∈ (countSection desc t).map series) : q.1 = desc.name := by
  rw [series_countSection] at hq
  obtain ⟨label, -, rfl⟩ := List.mem_map.1 hq
  rfl

theorem nodup_states {t : SortedTable (List String) (Nat × Nat)} (h : t.Ascending) :
    ((stateSection t).map series).Nodup := by
  have hne : threads.name ≠ Processlist.seconds.name := by decide
  rw [series_stateSection]
  refine List.nodup_flatMap.2 ⟨fun labels _ => ?_, ?_⟩
  · simp [hne]
  · refine h.nodup_keys.imp fun {a b} hab => ?_
    simp [Function.onFun, List.Disjoint, hab]

theorem nodup_counts {desc : Desc} {t : SortedTable String Nat} (h : t.Ascending) :
    ((countSection desc t).map series).Nodup := by
  rw [series_countSection]
  exact h.nodup_keys.map fun a b hab => by simpa using hab

/-- Each metric has each list of label values once. -/
theorem nodup_series {t : Tables} (h : t.Of groups processes seconds) :
    ((t.samples true true).map series).Nodup := by
  have hnames := nodup_metrics
  simp only [List.nodup_cons, List.mem_cons, List.not_mem_nil, or_false, not_or] at hnames
  obtain ⟨⟨-, hth, htu⟩, ⟨hsh, hsu⟩, hhu, -⟩ := hnames
  rw [Tables.samples, if_pos rfl, if_pos rfl, List.map_append, List.map_append]
  refine List.nodup_append.2 ⟨List.nodup_append.2 ⟨nodup_states h.states.ascending,
    nodup_counts h.hosts.ascending, ?_⟩, nodup_counts h.users.ascending, ?_⟩
  · rintro a ha b hb rfl
    have hhost := metric_of_mem_counts hb
    rcases metric_of_mem_states ha with he | he
    · exact hth (he.symm.trans hhost)
    · exact hsh (he.symm.trans hhost)
  · rintro a ha b hb rfl
    have huser := metric_of_mem_counts hb
    rcases List.mem_append.1 ha with ha | ha
    · rcases metric_of_mem_states ha with he | he
      · exact htu (he.symm.trans huser)
      · exact hsu (he.symm.trans huser)
    · exact hhu ((metric_of_mem_counts ha).symm.trans huser)

/-- **A process list adds up**: its samples are tables of whole numbers in the ascending order of
their keys, in which no process is lost and none is counted twice. Each metric has each list of
label values once, the sections of hosts and users are there if they are asked for, and the order of
the rows does not matter. -/
theorem samples_addUp (h : Whole (groupsOf rows) processes seconds) :
    ∃ t : Tables, t.Of (groupsOf rows) processes seconds ∧
      (∀ args, samples args rows =
        .ok (t.samples (args.bool "processes_by_host") (args.bool "processes_by_user"))) ∧
      ((t.samples true true).map series).Nodup ∧
      ∀ rows', rows.Perm rows' → ∀ args, samples args rows' = samples args rows := by
  have hof := tablesOf_of (groupsOf rows) processes seconds
  refine ⟨_, hof, samples_eq h, nodup_series hof, fun rows' hperm args => ?_⟩
  have hgroups : (groupsOf rows).Perm (groupsOf rows') := hperm.filterMap _
  rw [samples_eq h, samples_eq (h.perm hgroups), tablesOf_perm hgroups]

/-- Two states, two spellings of each of two keys, and a row without a number. -/
def merging : List Row :=
  rowsOf ["USER", "HOST", "COMMAND", "STATE", "PROCESSES", "SECONDS"]
    ([["app", "", "Query", "Sending data", "2", "10"],
      ["app", "unknown", "QUERY", "sending-data", "3", "5"],
      ["root", "10.0.0.1", "Sleep", "", "1", "7"],
      ["root", "10.0.0.1", "Sleep", "", "many", "9"]].map fun cells =>
        cells.map fun text => some (Utf8.encode text))

def wholeProcesses (g : Group) : Nat := g.processes.toUInt64.toNat

def wholeSeconds (g : Group) : Nat := g.seconds.toUInt64.toNat

theorem samples_addUp_merging : Whole (groupsOf merging) wholeProcesses wholeSeconds ∧
    ∃ t : Tables, t.hosts.find? "unknown" = some 5 ∧ t.users.values.sum = 6 ∧
      t.states.values.sum = (6, 22) ∧ ∀ rows', merging.Perm rows' →
        samples (ArgSet.new "info_schema.processlist" definitions) rows' =
          .ok (t.samples true true) := by
  have h : Whole (groupsOf merging) wholeProcesses wholeSeconds :=
    ⟨by decide, by decide, by decide, by decide⟩
  obtain ⟨t, ht, hs, -, hp⟩ := samples_addUp h
  refine ⟨h, t, ?_, ?_, ?_, fun rows' hperm => ?_⟩
  · rw [ht.hosts.byKey]
    decide
  · rw [ht.users.all]
    decide
  · rw [ht.states.all]
    decide
  · rw [hp rows' hperm, hs]
    rfl

end MysqlMetrics.Collector.Processlist
