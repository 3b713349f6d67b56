import MysqlMetrics.Collector.Shared
import MysqlMetrics.Proofs.Collector.Builtin
import MysqlMetrics.Proofs.Families.Accepted
import MysqlMetrics.Proofs.Naming
import MysqlMetrics.Proofs.Row.Dispatch
/-!
# Kept descriptors do not show

Whatever a collector has kept and whoever looks for descriptors meanwhile, a look finds a descriptor
that is as good as one made for it alone (`Look.Found`); only the help of replica status can be that
of another column. So each call returns what a collector that has never been called returns for the
same rows (`Reaches.transparent`). As replica status never lets go of a descriptor, its samples of
one name agree, whoever made them, and none is dropped because it does not go with another.
-/
namespace MysqlMetrics.Collector

open SortedTable

variable {k : Keeper} {look : Look} {cache cache' : DescCache} {d d' : Desc} {rows : List Row}
  {g g' : Gathering} {s s' : InCommon} {ss : List Sample}

/-! ## What a look finds -/

/-- What there is of a descriptor whoever kept it first: all of it but, with replica status, the
help, which names a column. -/
def Keeper.plain : Keeper → Desc → Desc
  | replicaStatus, d => { d with help := "" }
  | groupMembers, d => d

def Keeper.view (k : Keeper) (s : Sample) : Sample := { s with desc := k.plain s.desc }

namespace Look

def keeper : Look → Keeper
  | column .. => .replicaStatus
  | members .. => .groupMembers

/-- The descriptor that is made if none is kept. -/
def own : Look → Desc
  | column c _ _ => ReplicaStatus.newDesc c
  | members labels _ => GroupMembers.descFor labels

end Look

/-- What can be kept: for each stem the descriptor of a column with it, or any descriptor of group
members. -/
def Keeps : Keeper → DescCache → Prop
  | .replicaStatus, cache =>
    Ascending cache ∧ ∀ p ∈ cache, ∃ c, p = (Naming.stem c, ReplicaStatus.newDesc c)
  | .groupMembers, cache => cache.Of GroupMembers.Describes

/-- A look finds a good descriptor. Replica status keeps it from then on, and loses no other. -/
structure Look.Found (look : Look) (cache : DescCache) : Prop where
  keeps : Keeps look.keeper (look.desc cache).2
  plain : look.keeper.plain (look.desc cache).1 = look.keeper.plain look.own
  held : look.keeper = .replicaStatus →
    ∃ stem, find? stem (look.desc cache).2 = some (look.desc cache).1
  grows : look.keeper = .replicaStatus → ∀ stem d, find? stem cache = some d →
    find? stem (look.desc cache).2 = some d

theorem Keeps.describes (h : Keeps .replicaStatus cache) : cache.Of ReplicaStatus.Describes := by
  intro p hp
  obtain ⟨c, rfl⟩ := h.2 p hp
  exact ⟨c, rfl⟩

theorem plain_newDesc {a b : String} (h : Naming.stem a = Naming.stem b) :
    Keeper.plain .replicaStatus (ReplicaStatus.newDesc a) =
      Keeper.plain .replicaStatus (ReplicaStatus.newDesc b) := by
  simp [Keeper.plain, ReplicaStatus.newDesc, describe, h]

theorem found_column {c : String} {x : Float} {labels : List String}
    (h : Keeps .replicaStatus cache) : (Look.column c x labels).Found cache := by
  obtain ⟨ha, hc⟩ := h
  cases hf : find? (Naming.stem c) cache with
  | some d =>
    have hdesc : (Look.column c x labels).desc cache = (d, cache) := by
      simp [Look.desc, ReplicaStatus.descFor, hf]
    obtain ⟨a, ha'⟩ := hc _ (mem_of_find? hf)
    obtain ⟨hstem, rfl⟩ := Prod.mk.inj ha'
    refine ⟨?_, ?_, fun _ => ⟨Naming.stem c, ?_⟩, fun _ stem e he => ?_⟩
    · rw [hdesc]
      exact ⟨ha, hc⟩
    · rw [hdesc]
      exact plain_newDesc hstem.symm
    · rw [hdesc]
      exact hf
    · rw [hdesc]
      exact he
  | none =>
    have hdesc : (Look.column c x labels).desc cache = (ReplicaStatus.newDesc c,
        SortedTable.insert (Naming.stem c) (ReplicaStatus.newDesc c) cache) := by
      simp [Look.desc, ReplicaStatus.descFor, hf]
    refine ⟨?_, ?_, fun _ => ⟨Naming.stem c, ?_⟩, fun _ stem e he => ?_⟩
    · rw [hdesc]
      refine ⟨ha.insert, fun p hp => ?_⟩
      rcases mem_insert hp with rfl | hp
      · exact ⟨c, rfl⟩
      · exact hc p hp
    · rw [hdesc]
      rfl
    · rw [hdesc, find?_insert ha, if_pos rfl]
    · have hne : stem ≠ Naming.stem c := by
        rintro rfl
        rw [hf] at he
        cases he
      rw [hdesc, find?_insert ha, if_neg hne]
      exact he

theorem found_members {labels : List String} (h : Keeps .groupMembers cache) :
    (Look.members labels rows).Found cache := by
  obtain ⟨⟨l, hd⟩, hlabels, hkeeps⟩ := GroupMembers.desc_spec h labels
  refine ⟨hkeeps, ?_, nofun, nofun⟩
  have hl : l = labels := by
    rw [hd] at hlabels
    exact hlabels
  exact hl ▸ hd

theorem Look.found (h : Keeps look.keeper cache) : look.Found cache := by
  cases look with
  | column => exact found_column h
  | members => exact found_members h

/-! ## What is made of it -/

theorem scalar_view {x : Float} {labels : List String}
    (h : Keeper.plain .replicaStatus d = Keeper.plain .replicaStatus d') :
    (Sample.scalar d x labels).map (Keeper.view .replicaStatus) =
      (Sample.scalar d' x labels).map (Keeper.view .replicaStatus) := by
  obtain ⟨name, help, kind, names, const⟩ := d
  obtain ⟨name', help', kind', names', const'⟩ := d'
  simp only [Keeper.plain, Desc.mk.injEq] at h
  obtain ⟨rfl, -, rfl, rfl, rfl⟩ := h
  unfold Sample.scalar Sample.build
  dsimp only
  split
  · split <;> rfl
  · rfl

/-- Samples show no more of their descriptor than others can know. -/
theorem samples_view (h : look.keeper.plain d = look.keeper.plain d') :
    (look.samples d).map (List.map look.keeper.view) =
      (look.samples d').map (List.map look.keeper.view) := by
  cases look with
  | members labels rows =>
    obtain rfl : d = d' := h
    rfl
  | column c x labels =>
    have hone : ∀ r : Except MetricError Sample, (r.map fun s => [s]).map
        (List.map (Keeper.view .replicaStatus)) =
          (r.map (Keeper.view .replicaStatus)).map fun s => [s] := by
      intro r
      cases r <;> rfl
    simp only [Look.samples, Look.keeper]
    rw [hone, hone, scalar_view h]

theorem desc_of_scalar {x : Float} {labels : List String} {t : Sample}
    (h : Sample.scalar d x labels = .ok t) : t.desc = d := by
  unfold Sample.scalar Sample.build at h
  split at h
  · split at h
    · cases h
      rfl
    · cases h
  · cases h

theorem desc_of_samples (h : look.samples d = .ok ss) : ∀ x ∈ ss, x.desc = d := by
  intro t ht
  cases look with
  | column c x labels =>
    obtain ⟨t', hs, rfl⟩ := map_eq_ok.1 h
    rw [List.mem_singleton.1 ht]
    exact desc_of_scalar hs
  | members labels rows =>
    obtain ⟨row, -, hs⟩ := exists_of_mem_mapM h ht
    exact desc_of_scalar hs

/-- What is to be seen of the samples that some looks should make, if each had its own
descriptor. -/
def Keeper.expected (k : Keeper) : List Look → Except MetricError (List Sample)
  | [] => .ok []
  | look :: ahead =>
    ((look.samples look.own).map (List.map k.view)).bind fun ss =>
      (expected k ahead).map (ss ++ ·)

theorem keeper_of_mem_looks (h : look ∈ k.looks rows) : look.keeper = k := by
  cases k with
  | replicaStatus =>
    obtain ⟨row, -, h⟩ := List.mem_flatMap.1 h
    obtain ⟨p, -, rfl⟩ := List.mem_map.1 h
    rfl
  | groupMembers =>
    cases rows with
    | nil => cases h
    | cons first rows =>
      rw [List.mem_singleton.1 h]
      rfl

/-! ## Turns -/

/-- A call has made what it should have made of the looks behind it. -/
structure Gathering.Faithful (k : Keeper) (g : Gathering) : Prop where
  keeper : ∀ look ∈ g.ahead, look.keeper = k
  expected : k.expected (k.looks g.rows) = match g.failure with
    | none => (k.expected g.ahead).map (g.made.map k.view ++ ·)
    | some e => .error e
  stopped : g.failure.isSome = true → g.ahead = []

/-- All that a turn can do. -/
theorem Gathering.turn_eq_some (h : g.turn cache = some (g', cache')) :
    ∃ look ahead, g.ahead = look :: ahead ∧ cache' = (look.desc cache).2 ∧
      ((∃ ss, look.samples (look.desc cache).1 = .ok ss ∧
        g' = { g with ahead := ahead, made := g.made ++ ss }) ∨
      (∃ e, look.samples (look.desc cache).1 = .error e ∧
        g' = { g with ahead := [], failure := some e })) := by
  unfold turn at h
  split at h
  · cases h
  · rename_i look ahead hahead
    dsimp only at h
    split at h
    · rename_i ss hss
      obtain ⟨rfl, rfl⟩ := Prod.mk.inj (Option.some.inj h)
      exact ⟨look, ahead, hahead, rfl, .inl ⟨ss, hss, rfl⟩⟩
    · rename_i e he
      obtain ⟨rfl, rfl⟩ := Prod.mk.inj (Option.some.inj h)
      exact ⟨look, ahead, hahead, rfl, .inr ⟨e, he, rfl⟩⟩

theorem InCommon.turn_eq_some {i : Nat} (h : s.turn i = some s') : ∃ g g' cache,
    s.calls[i]? = some g ∧ g.turn s.cache = some (g', cache) ∧ s' = ⟨cache, s.calls.set i g'⟩ := by
  obtain ⟨g, hg, h⟩ := Option.bind_eq_some_iff.1 h
  obtain ⟨⟨g', cache⟩, ht, rfl⟩ := Option.map_eq_some_iff.1 h
  exact ⟨g, g', cache, hg, ht, rfl⟩

theorem Gathering.faithful_new (k : Keeper) (rows : List Row) :
    (Gathering.new k rows).Faithful k := by
  refine ⟨fun look h => keeper_of_mem_looks h, ?_, nofun⟩
  dsimp only [Gathering.new]
  cases k.expected (k.looks rows) <;> rfl

theorem Gathering.Faithful.turn (h : g.Faithful k) (hc : Keeps k cache)
    (ht : g.turn cache = some (g', cache')) : g'.Faithful k ∧ Keeps k cache' := by
  obtain ⟨look, ahead, hahead, rfl, hcases⟩ := Gathering.turn_eq_some ht
  obtain ⟨rows, ahead', made, failure⟩ := g
  obtain rfl : ahead' = look :: ahead := hahead
  obtain rfl : look.keeper = k := h.keeper look List.mem_cons_self
  have hfound := Look.found hc
  have hview := samples_view hfound.plain
  have hnone : failure = none := by
    cases failure with
    | none => rfl
    | some e => cases h.stopped rfl
  subst hnone
  have hexpected := h.expected
  dsimp only [Keeper.expected] at hexpected
  rw [← hview] at hexpected
  refine ⟨?_, hfound.keeps⟩
  rcases hcases with ⟨ss, hss, rfl⟩ | ⟨e, he, rfl⟩
  · refine ⟨fun l hl => h.keeper l (List.mem_cons_of_mem _ hl), ?_, nofun⟩
    rw [hss] at hexpected
    dsimp only
    rw [hexpected]
    cases look.keeper.expected ahead with
    | error e => rfl
    | ok more => simp [Except.map, Except.bind]
  · refine ⟨nofun, ?_, fun _ => rfl⟩
    rw [he] at hexpected
    exact hexpected

/-- Replica status loses no descriptor, and keeps those of the samples that it has made. -/
theorem Gathering.Faithful.turn_held (h : g.Faithful .replicaStatus)
    (hc : Keeps .replicaStatus cache)
    (ht : g.turn cache = some (g', cache')) :
    (∀ stem d, find? stem cache = some d → find? stem cache' = some d) ∧
      ∀ x ∈ g'.made, x ∈ g.made ∨ ∃ stem, find? stem cache' = some x.desc := by
  obtain ⟨look, ahead, hahead, rfl, hcases⟩ := Gathering.turn_eq_some ht
  have hkeeper : look.keeper = .replicaStatus := h.keeper look (by simp [hahead])
  have hfound : look.Found cache := Look.found (by rwa [hkeeper])
  refine ⟨hfound.grows hkeeper, fun x hx => ?_⟩
  rcases hcases with ⟨ss, hss, rfl⟩ | ⟨e, -, rfl⟩
  · rcases List.mem_append.1 hx with hx | hx
    · exact .inl hx
    · obtain ⟨stem, hstem⟩ := hfound.held hkeeper
      exact .inr ⟨stem, by rw [hstem, desc_of_samples hss x hx]⟩
  · exact .inl hx

/-- A call that is over returns what it should. -/
theorem Gathering.Faithful.result (h : g.Faithful k) (hover : g.ahead = []) :
    g.result.map (List.map k.view) = k.expected (k.looks g.rows) := by
  rw [h.expected, hover, Gathering.result]
  cases g.failure with
  | none => simp [Keeper.expected, Except.map]
  | some e => rfl

namespace InCommon

/-- A sample that a call has made. -/
def Made (s : InCommon) (x : Sample) : Prop := ∃ g ∈ s.calls, x ∈ g.made

/-- What holds of a collector whatever its calls have done. -/
structure Sound (k : Keeper) (s : InCommon) : Prop where
  keeps : Keeps k s.cache
  faithful : ∀ g ∈ s.calls, g.Faithful k
  held : k = .replicaStatus → ∀ x, s.Made x → ∃ stem, find? stem s.cache = some x.desc

theorem sound_new (k : Keeper) : Sound k {} := by
  refine ⟨?_, nofun, fun _ x ⟨g, hg, _⟩ => nomatch hg⟩
  cases k with
  | replicaStatus => exact ⟨.nil, nofun⟩
  | groupMembers => exact nofun

theorem Sound.call (h : s.Sound k) (rows : List Row) : (s.call k rows).Sound k := by
  refine ⟨h.keeps, fun g hg => ?_, fun hk x ⟨g, hg, hx⟩ => ?_⟩
  · rcases List.mem_append.1 hg with hg | hg
    · exact h.faithful g hg
    · rw [List.mem_singleton.1 hg]
      exact Gathering.faithful_new k rows
  · rcases List.mem_append.1 hg with hg | hg
    · exact h.held hk x ⟨g, hg, hx⟩
    · rw [List.mem_singleton.1 hg] at hx
      cases hx

theorem Sound.turn (h : s.Sound k) {i : Nat} (hs : s.turn i = some s') : s'.Sound k := by
  obtain ⟨g, g', cache, hg, ht, rfl⟩ := turn_eq_some hs
  have hmem := List.mem_of_getElem? hg
  obtain ⟨hfaithful, hkeeps⟩ := (h.faithful g hmem).turn h.keeps ht
  refine ⟨hkeeps, fun g₁ hg₁ => ?_, fun hk x ⟨g₁, hg₁, hx⟩ => ?_⟩
  · rcases List.mem_or_eq_of_mem_set hg₁ with hg₁ | rfl
    · exact h.faithful g₁ hg₁
    · exact hfaithful
  · subst hk
    obtain ⟨hgrows, hmade⟩ := (h.faithful g hmem).turn_held h.keeps ht
    have hold : s.Made x → ∃ stem, find? stem cache = some x.desc := fun hx => by
      obtain ⟨stem, hstem⟩ := h.held rfl x hx
      exact ⟨stem, hgrows stem _ hstem⟩
    rcases List.mem_or_eq_of_mem_set hg₁ with hg₁ | rfl
    · exact hold ⟨g₁, hg₁, hx⟩
    · rcases hmade x hx with hx | hx
      · exact hold ⟨g, hmem, hx⟩
      · exact hx

theorem Reaches.sound (h : Reaches k s) : s.Sound k := by
  induction h with
  | new => exact sound_new k
  | call rows h ih => exact ih.call rows
  | turn i h hs ih => exact ih.turn hs

/-! ## One call alone -/

theorem turn_last {calls : List Gathering} (ht : g.turn cache = some (g', cache')) :
    turn ⟨cache, calls ++ [g]⟩ calls.length = some ⟨cache', calls ++ [g']⟩ := by
  simp [turn, ht]

/-- The columns of a row that have a number are looked for one after the other. -/
theorem reaches_columns {calls : List Gathering} {ahead : List Look} {row : Row}
    (cs : List (String × Float)) {cache : DescCache} {made : List Sample}
    (h : Reaches .replicaStatus ⟨cache, calls ++ [⟨rows, (cs.map fun (c, x) =>
      .column c x (ReplicaStatus.labelValues row)) ++ ahead, made, none⟩]⟩) :
    ∃ ss, (ReplicaStatus.columnSamples (ReplicaStatus.labelValues row) cache cs).1 = ss.map .ok ∧
      Reaches .replicaStatus
        ⟨(ReplicaStatus.columnSamples (ReplicaStatus.labelValues row) cache cs).2,
          calls ++ [⟨rows, ahead, made ++ ss, none⟩]⟩ := by
  induction cs generalizing cache made with
  | nil =>
    refine ⟨[], rfl, ?_⟩
    rw [List.append_nil]
    exact h
  | cons p cs ih =>
    obtain ⟨c, x⟩ := p
    obtain ⟨hd, -⟩ := ReplicaStatus.descFor_spec h.sound.keeps.describes c
    obtain ⟨t, ht, -⟩ := ReplicaStatus.made_of_describes (x := x) hd row
    have hturn : Gathering.turn cache ⟨rows, .column c x (ReplicaStatus.labelValues row) ::
        ((cs.map fun (c, x) => .column c x (ReplicaStatus.labelValues row)) ++ ahead), made, none⟩ =
        some (⟨rows, (cs.map fun (c, x) => .column c x (ReplicaStatus.labelValues row)) ++ ahead,
          made ++ [t], none⟩, (ReplicaStatus.descFor cache c).2) := by
      simp [Gathering.turn, Look.desc, Look.samples, ht, Except.map]
    obtain ⟨ss, hss, hreaches⟩ := ih (h.turn _ (turn_last hturn))
    refine ⟨t :: ss, ?_, ?_⟩
    · rw [List.map_cons, ← ht, ← hss]
      rfl
    · rw [List.append_assoc, List.singleton_append] at hreaches
      exact hreaches

theorem reaches_rows {calls : List Gathering} (more : List Row) {cache : DescCache}
    {made : List Sample} (h : Reaches .replicaStatus ⟨cache, calls ++ [⟨rows,
      more.flatMap Keeper.rowLooks, made, none⟩]⟩) :
    ∃ ss, (ReplicaStatus.rowsSamples cache more).1 = ss.map .ok ∧
      Reaches .replicaStatus ⟨(ReplicaStatus.rowsSamples cache more).2,
        calls ++ [⟨rows, [], made ++ ss, none⟩]⟩ := by
  induction more generalizing cache made with
  | nil =>
    refine ⟨[], rfl, ?_⟩
    rw [List.append_nil]
    exact h
  | cons row more ih =>
    obtain ⟨ss, hss, hrow⟩ := reaches_columns (ReplicaStatus.measured row) h
    obtain ⟨ts, hts, hmore⟩ := ih hrow
    refine ⟨ss ++ ts, ?_, ?_⟩
    · rw [List.map_append, ← hss, ← hts]
      rfl
    · rw [List.append_assoc] at hmore
      exact hmore

/-- A call that nobody disturbs is `samples`. -/
theorem Reaches.samples (h : Reaches k s) (rows : List Row) :
    ∃ g, Reaches k ⟨(k.samples s.cache rows).2, s.calls ++ [g]⟩ ∧ g.rows = rows ∧ g.ahead = [] ∧
      g.result = (k.samples s.cache rows).1 := by
  have hcall := h.call rows
  cases k with
  | replicaStatus =>
    obtain ⟨ss, hss, hreaches⟩ := reaches_rows rows hcall
    refine ⟨_, hreaches, rfl, rfl, ?_⟩
    have hresult : (ReplicaStatus.samples s.cache rows).1 = .ok ss := by
      change List.mapM id _ = _
      rw [hss, mapM_eq_ok, List.map_id]
    exact hresult.symm
  | groupMembers =>
    cases rows with
    | nil => exact ⟨_, hcall, rfl, rfl, rfl⟩
    | cons first rows =>
      obtain ⟨g, hturn, hrows, hover, hresult⟩ : ∃ g, Gathering.turn s.cache
          (.new .groupMembers (first :: rows)) =
            some (g, (GroupMembers.samples s.cache (first :: rows)).2) ∧
          g.rows = first :: rows ∧ g.ahead = [] ∧
          g.result = (GroupMembers.samples s.cache (first :: rows)).1 := by
        simp only [Gathering.turn, Gathering.new, Keeper.looks, Look.desc, Look.samples,
          GroupMembers.samples]
        split
        · rename_i ss hss
          exact ⟨_, rfl, rfl, rfl, hss.symm⟩
        · rename_i e he
          exact ⟨_, rfl, rfl, rfl, he.symm⟩
      exact ⟨g, hcall.turn _ (turn_last hturn), hrows, hover, hresult⟩

/-- What is to be seen of the samples does not depend on what is kept. -/
theorem Reaches.samples_view (h : Reaches k s) (rows : List Row) :
    (k.samples s.cache rows).1.map (List.map k.view) = k.expected (k.looks rows) := by
  obtain ⟨g, hg, rfl, hover, hresult⟩ := h.samples rows
  rw [← hresult]
  exact (hg.sound.faithful g (by simp)).result hover

/-! ## What calls return -/

/-- A call that is not over can go on, and comes closer to its end. -/
theorem exists_turn {i : Nat} (hg : s.calls[i]? = some g) (h : g.ahead ≠ []) : ∃ g' s',
    s.turn i = some s' ∧ s'.calls[i]? = some g' ∧ g'.rows = g.rows ∧
      g'.ahead.length < g.ahead.length := by
  obtain ⟨look, ahead, hahead⟩ := List.exists_cons_of_ne_nil h
  obtain ⟨hi, -⟩ := List.getElem?_eq_some_iff.1 hg
  have hset : ∀ g', (s.calls.set i g')[i]? = some g' := fun g' => by simp [hi]
  have hturn : ∃ g' cache, g.turn s.cache = some (g', cache) ∧ g'.rows = g.rows ∧
      g'.ahead.length < g.ahead.length := by
    unfold Gathering.turn
    rw [hahead]
    dsimp only
    split
    · exact ⟨_, _, rfl, rfl, by simp⟩
    · exact ⟨_, _, rfl, rfl, by simp⟩
  obtain ⟨g', cache, ht, hrows, hlt⟩ := hturn
  refine ⟨g', ⟨cache, s.calls.set i g'⟩, ?_, hset g', hrows, hlt⟩
  simp [turn, hg, ht]

/-- Samples of replica status with one name are under one descriptor. -/
theorem Sound.desc_eq {x y : Sample} (h : s.Sound .replicaStatus) (hx : s.Made x) (hy : s.Made y)
    (hn : x.desc.name = y.desc.name) : x.desc = y.desc := by
  obtain ⟨a, ha⟩ := h.held rfl x hx
  obtain ⟨b, hb⟩ := h.held rfl y hy
  obtain ⟨c, hc⟩ := h.keeps.2 _ (mem_of_find? ha)
  obtain ⟨c', hc'⟩ := h.keeps.2 _ (mem_of_find? hb)
  obtain ⟨rfl, hxc⟩ := Prod.mk.inj hc
  obtain ⟨rfl, hyc⟩ := Prod.mk.inj hc'
  rw [hxc, hyc] at hn
  have hroot : Naming.root ≠ "" := by decide
  have hstem : Naming.stem c = Naming.stem c' :=
    (Naming.join_stem_inj hroot (show "slave_status" ≠ "" by decide)).1 hn
  rw [hstem, hb] at ha
  exact (Option.some.inj ha).symm

/-- So among samples of its name that replica status has made one is kept unless it repeats the
labels of another. -/
theorem Sound.push_iff {x : Sample} (h : s.Sound .replicaStatus) (hx : s.Made x)
    (hss : ∀ y ∈ ss, y.desc.name = x.desc.name → s.Made y) :
    ((FamilyBuilder.empty.pushAll ss).push x).1 = true ↔
      ∀ y ∈ FamilyBuilder.empty.accepted ss, y.desc.name = x.desc.name →
        y.labelKey ≠ x.labelKey := by
  rw [FamilyBuilder.push_iff]
  constructor
  · exact fun hf => hf.values
  · refine fun hv => ⟨fun first hfirst => ?_, hv⟩
    obtain ⟨hmem, hname⟩ := FamilyBuilder.firstOf_eq_some hfirst
    rw [h.desc_eq (hss first hmem hname) hx hname]
    exact .refl _

/-- What is kept does not show. -/
structure Transparent (k : Keeper) (s : InCommon) : Prop where
  /-- A call goes on until it is over. -/
  goesOn : ∀ i g, s.calls[i]? = some g → g.ahead ≠ [] → ∃ g' s', s.turn i = some s' ∧
    s'.calls[i]? = some g' ∧ g'.rows = g.rows ∧ g'.ahead.length < g.ahead.length
  /-- It has then returned what a collector returns that keeps nothing yet. -/
  returned : ∀ g ∈ s.calls, g.ahead = [] →
    g.result.map (List.map k.view) = (k.samples [] g.rows).1.map (List.map k.view)
  /-- So does a call that nobody disturbs from now on. -/
  undisturbed : ∀ rows,
    (k.samples s.cache rows).1.map (List.map k.view) = (k.samples [] rows).1.map (List.map k.view)
  /-- Samples of replica status with one name agree whichever calls have made them. -/
  oneSchema : k = .replicaStatus → ∀ x y, s.Made x → s.Made y → x.desc.name = y.desc.name →
    x.desc = y.desc
  /-- Each is kept among the others unless it repeats the labels of one that was kept. -/
  pushed : k = .replicaStatus → ∀ x ss, s.Made x →
    (∀ y ∈ ss, y.desc.name = x.desc.name → s.Made y) →
    (((FamilyBuilder.empty.pushAll ss).push x).1 = true ↔
      ∀ y ∈ FamilyBuilder.empty.accepted ss, y.desc.name = x.desc.name → y.labelKey ≠ x.labelKey)

/-- **Kept descriptors do not show**, whatever calls there have been and in whatever order they have
taken their turns. -/
theorem Reaches.transparent (h : Reaches k s) : s.Transparent k where
  goesOn _ _ hg hahead := exists_turn hg hahead
  returned g hg hover := by
    have hfresh := (Reaches.new (k := k)).samples_view g.rows
    exact ((h.sound.faithful g hg).result hover).trans hfresh.symm
  undisturbed rows := by
    have hfresh := (Reaches.new (k := k)).samples_view rows
    exact (h.samples_view rows).trans hfresh.symm
  oneSchema hk x y hx hy hn := by
    subst hk
    exact h.sound.desc_eq hx hy hn
  pushed hk x ss hx hss := by
    subst hk
    exact h.sound.push_iff hx hss

/-- One row with one column. -/
def oneColumn (column : String) : List Row := [⟨[column], [some (Utf8.encode "1")]⟩]

/-- Two calls for columns with one stem. -/
def twoCalls : InCommon :=
  (InCommon.call .replicaStatus {} (oneColumn "Seconds Behind")).call .replicaStatus
    (oneColumn "Seconds-Behind")

/-- The second has its turn before the first. -/
def overtaken : Option InCommon := (twoCalls.turn 1).bind fun s => s.turn 0

def helps (s : InCommon) : List (List String) := s.calls.map fun g => g.made.map (·.desc.help)

/-- Both are given the help of the second. -/
theorem transparent_overtaken : ∃ s, overtaken = some s ∧ s.Transparent .replicaStatus ∧
    s.helps = [["Generic metric from SHOW SLAVE STATUS (Seconds-Behind)."],
      ["Generic metric from SHOW SLAVE STATUS (Seconds-Behind)."]] := by
  have hhelps : overtaken.map helps =
      some [["Generic metric from SHOW SLAVE STATUS (Seconds-Behind)."],
        ["Generic metric from SHOW SLAVE STATUS (Seconds-Behind)."]] := by decide
  obtain ⟨s, hs, hh⟩ := Option.map_eq_some_iff.1 hhelps
  have hcalls : Reaches .replicaStatus twoCalls :=
    (Reaches.new.call (oneColumn "Seconds Behind")).call (oneColumn "Seconds-Behind")
  have hreaches : Reaches .replicaStatus s := by
    obtain ⟨s₁, hs₁, hs₂⟩ := Option.bind_eq_some_iff.1 hs
    exact (hcalls.turn 1 hs₁).turn 0 hs₂
  exact ⟨s, hs, hreaches.transparent, hh⟩

end InCommon
end MysqlMetrics.Collector
