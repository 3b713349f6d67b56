import MysqlMetrics.Connection.Calls
import MysqlMetrics.Proofs.Lists
import MysqlMetrics.Proofs.Table
/-!
# Calls on the same pools

Whatever turns calls take, one pool at most is cached for a target, and what is taken for it between
two removals of all pools is that pool (`Lawful`). A name other than the empty one stands for its
own target: its pools have the options of that target, and without a target it is refused. The empty
name is also that of no target, so under it a call may be given what was made for the other. It
rests on what the log of all takings and removals tells of the cache (`SharedPools.Sound`), and on a
call being no further than the log says of it (`Call.Stands`).
-/
namespace MysqlMetrics

open SortedTable

namespace SharedPools

/-- The serials and options of the pools that are cached, by name. They never change. -/
def roster (s : SharedPools) : SortedTable String (Nat × ConnectOptions) :=
  s.pools.cached.map fun p => (p.1, (p.2.serial, p.2.options))

def removedSerials (s : SharedPools) : List Nat := s.removed.map (·.serial)

/-- The serials of all pools. -/
def serials (s : SharedPools) : List Nat := s.roster.map (·.2.1) ++ s.removedSerials

theorem map_serial (s : SharedPools) :
    (values s.pools.cached).map (·.serial) = s.roster.map (·.2.1) := by
  simp only [roster, values, List.map_map, Function.comp_def]

theorem find?_roster (s : SharedPools) (target : Option String) :
    find? (Pools.key target) s.roster =
      (s.pools.cached? target).map fun pool => (pool.serial, pool.options) :=
  find?_map (fun pool : Pool => (pool.serial, pool.options)) s.pools.cached

/-- The same pools are cached and removed, and the same has happened to them. -/
structure Alike (s s' : SharedPools) : Prop where
  default : s'.pools.default = s.pools.default
  targets : s'.pools.targets = s.pools.targets
  made : s'.pools.made = s.pools.made
  roster : s'.roster = s.roster
  removedSerials : s'.removedSerials = s.removedSerials
  closed : s'.closed = s.closed
  log : s'.log = s.log

theorem Alike.refl (s : SharedPools) : Alike s s := ⟨rfl, rfl, rfl, rfl, rfl, rfl, rfl⟩

theorem Alike.trans {s₁ s₂ s₃ : SharedPools} (h : Alike s₁ s₂) (h' : Alike s₂ s₃) : Alike s₁ s₃ :=
  ⟨h'.default.trans h.default, h'.targets.trans h.targets, h'.made.trans h.made,
    h'.roster.trans h.roster, h'.removedSerials.trans h.removedSerials, h'.closed.trans h.closed,
    h'.log.trans h.log⟩

theorem alike_started (s : SharedPools) : Alike s s.started :=
  ⟨rfl, rfl, rfl, rfl, rfl, rfl, rfl⟩

theorem alike_alter {s : SharedPools} {serial : Nat} {f : Pool → Pool}
    (hf : ∀ q, (f q).serial = q.serial ∧ (f q).options = q.options) :
    Alike s (s.alter serial f) := by
  refine ⟨rfl, rfl, rfl, ?_, ?_, rfl, rfl⟩
  · simp only [SharedPools.roster, alter, List.map_map]
    refine List.map_congr_left fun p _ => ?_
    dsimp only [Function.comp_apply]
    split
    · rw [(hf p.2).1, (hf p.2).2]
    · rfl
  · simp only [SharedPools.removedSerials, alter, List.map_map]
    refine List.map_congr_left fun q _ => ?_
    dsimp only [Function.comp_apply]
    split
    · exact (hf q).1
    · rfl

theorem Alike.optionsFor {s s' : SharedPools} (h : Alike s s') (target : Option String) :
    s'.pools.optionsFor target = s.pools.optionsFor target := by
  simp only [Pools.optionsFor, h.default, h.targets]

theorem alike_connect {s s' : SharedPools} {net : Network} {pool : Pool} {host : Host}
    (h : s.connect net pool = some (host, s')) : Alike s s' := by
  unfold connect at h
  split at h
  · cases h
  · split at h
    · cases h
    · split at h
      · cases h
        exact .refl s
      · split at h
        · cases h
          exact s.alike_started.trans (alike_alter fun q => ⟨rfl, rfl⟩)
        · cases h

theorem alike_discover {s s' : SharedPools} {net : Network} {pool : Pool} {info : ServerInfo}
    (h : s.discover net pool = some (info, s')) : Alike s s' := by
  unfold discover at h
  split at h
  · cases h
    exact .refl s
  · split at h
    · cases h
    · obtain ⟨text, -, heq⟩ := Option.map_eq_some_iff.1 h
      rw [← (Prod.mk.inj heq).2]
      exact alike_alter fun q => ⟨rfl, rfl⟩

end SharedPools

/-! ## Moves -/

/-- What an acquire may do, how far that takes it, and what it leaves. -/
inductive Acquiring.Goes (call : Nat) (target : Option String) (s : SharedPools) :
    Acquiring → Call.Move → Acquiring × SharedPools → Prop
  | hit {pool : Pool} (hc : s.pools.cached? target = some pool) :
    Goes call target s .begun .look (.holding pool.serial, s.take call target pool)
  | refused {e : AcquireError} (hc : s.pools.cached? target = none)
    (ho : s.pools.optionsFor target = .error e) :
    Goes call target s .begun .look (.answered (.error e), s)
  | missed {options : ConnectOptions} (hc : s.pools.cached? target = none)
    (ho : s.pools.optionsFor target = .ok options) :
    Goes call target s .begun .look (.missed options, s)
  | keep {options : ConnectOptions} :
    Goes call target s (.missed options) .keep
      (.holding (s.pools.install target options).1.serial,
        { s with pools := (s.pools.install target options).2 }.take call target
          (s.pools.install target options).1)
  | unconnected {serial : Nat} {net : Network} {pool : Pool} (hp : s.pool? serial = some pool)
    (hn : s.connect net pool = none) :
    Goes call target s (.holding serial) (.connect net) (.answered (.error .connect), s)
  | known {serial : Nat} {net : Network} {pool : Pool} {host : Host} {info : ServerInfo}
    {s' : SharedPools} (hp : s.pool? serial = some pool)
    (hn : s.connect net pool = some (host, s')) (hi : pool.info = some info) :
    Goes call target s (.holding serial) (.connect net)
      (.answered (.ok ⟨serial, ⟨info, host.database⟩⟩), s')
  | connected {serial : Nat} {net : Network} {pool : Pool} {host : Host} {s' : SharedPools}
    (hp : s.pool? serial = some pool) (hn : s.connect net pool = some (host, s'))
    (hi : pool.info = none) :
    Goes call target s (.holding serial) (.connect net) (.connected serial host, s')
  | unknown {serial : Nat} {net : Network} {pool : Pool} {host : Host}
    (hp : s.pool? serial = some pool) (hd : s.discover net pool = none) :
    Goes call target s (.connected serial host) (.ask net) (.answered (.error .version), s)
  | discovered {serial : Nat} {net : Network} {pool : Pool} {host : Host} {info : ServerInfo}
    {s' : SharedPools} (hp : s.pool? serial = some pool)
    (hd : s.discover net pool = some (info, s')) :
    Goes call target s (.connected serial host) (.ask net)
      (.answered (.ok ⟨serial, ⟨info, host.database⟩⟩), s')
  | leave {stage : Acquiring} : Goes call target s stage .leave (.abandoned, s)

theorem Acquiring.goes_of_step {call : Nat} {target : Option String} {s : SharedPools}
    {stage : Acquiring} {move : Call.Move} {out : Acquiring × SharedPools}
    (h : stage.step call target s move = some out) : Goes call target s stage move out := by
  unfold step at h
  split at h
  · split at h
    · rename_i pool hc
      cases h
      exact .hit hc
    · rename_i hc
      split at h
      · rename_i e ho
        cases h
        exact .refused hc ho
      · rename_i options ho
        cases h
        exact .missed hc ho
  · cases h
    exact .keep
  · obtain ⟨pool, hp, rfl⟩ := Option.map_eq_some_iff.1 h
    split
    · rename_i hn
      exact .unconnected hp hn
    · rename_i host s' hn
      split
      · rename_i info hi
        exact .known hp hn hi
      · rename_i hi
        exact .connected hp hn hi
  · obtain ⟨pool, hp, rfl⟩ := Option.map_eq_some_iff.1 h
    split
    · rename_i hd
      exact .unknown hp hd
    · rename_i info s' hd
      exact .discovered hp hd
  all_goals cases h
  all_goals exact .leave

/-- What a close may do, how far that takes it, and what it leaves. -/
inductive Closing.Goes (s : SharedPools) :
    Closing → Call.Move → Closing × SharedPools → Prop
  | empty : Goes s .begun .empty (.emptied (s.roster.map (·.2.1)), s.empty)
  | shut {serials : List Nat} {serial : Nat} (hs : serial ∈ serials) :
    Goes s (.emptied serials) (.shut serial)
      (.emptied (serials.erase serial), { s with closed := serial :: s.closed })
  | leave {stage : Closing} : Goes s stage .leave (.abandoned, s)

theorem Closing.goes_of_step {s : SharedPools} {stage : Closing} {move : Call.Move}
    {out : Closing × SharedPools} (h : stage.step s move = some out) : Goes s stage move out := by
  unfold step at h
  split at h
  · cases h
    rw [SharedPools.map_serial]
    exact .empty
  · split at h
    · rename_i hs
      cases h
      exact .shut hs
    · cases h
  all_goals cases h
  all_goals exact .leave

/-! ## What holds of the pools -/

/-- The call that an event is about. -/
def PoolEvent.call? : PoolEvent → Option Nat
  | .took call _ _ _ => some call
  | .emptied => none

/-- Between two removals, what is taken under one name is one pool. -/
def Steady (log : List PoolEvent) : Prop :=
  ∀ later call target n options between call' target' n' options' earlier,
    log = later ++ .took call target n options ::
      (between ++ .took call' target' n' options' :: earlier) →
    .emptied ∉ between → Pools.key target = Pools.key target' → n = n' ∧ options = options'

namespace SharedPools

structure Sound (s : SharedPools) : Prop where
  ascending : Ascending s.roster
  fits : ∀ p ∈ s.roster,
    ∃ target, Pools.key target = p.1 ∧ s.pools.optionsFor target = .ok p.2.2
  nodup : s.serials.Nodup
  made : ∀ n ∈ s.serials, n < s.pools.made
  closed : ∀ n ∈ s.closed, n ∈ s.removedSerials
  taken : ∀ call target n options, .took call target n options ∈ s.log → n ∈ s.serials ∧
    ∃ target', Pools.key target' = Pools.key target ∧ s.pools.optionsFor target' = .ok options
  once : (s.log.filterMap PoolEvent.call?).Nodup
  /-- A pool that was taken is cached until all are removed. -/
  current : ∀ later call target n options earlier,
    s.log = later ++ .took call target n options :: earlier → .emptied ∉ later →
      find? (Pools.key target) s.roster = some (n, options)
  steady : Steady s.log

theorem Sound.alike {s s' : SharedPools} (h : s.Sound) (ha : Alike s s') : s'.Sound where
  ascending := ha.roster ▸ h.ascending
  fits := by simpa only [ha.roster, ha.optionsFor] using h.fits
  nodup := by simpa only [serials, ha.roster, ha.removedSerials] using h.nodup
  made := by simpa only [serials, ha.roster, ha.removedSerials, ha.made] using h.made
  closed := by simpa only [ha.closed, ha.removedSerials] using h.closed
  taken := by
    simpa only [ha.log, serials, ha.roster, ha.removedSerials, ha.optionsFor] using h.taken
  once := ha.log ▸ h.once
  current := by simpa only [ha.log, ha.roster] using h.current
  steady := ha.log ▸ h.steady

theorem Sound.take {s : SharedPools} (h : s.Sound) {call : Nat} {target : Option String}
    {pool : Pool} (hc : s.pools.cached? target = some pool)
    (hnew : ∀ event ∈ s.log, event.call? ≠ some call) : (s.take call target pool).Sound := by
  have hfound : find? (Pools.key target) s.roster = some (pool.serial, pool.options) := by
    rw [find?_roster, hc]
    rfl
  have hmem := mem_of_find? hfound
  refine { h with taken := ?_, once := ?_, current := ?_, steady := ?_ }
  · intro c t n o hlog
    rcases List.mem_cons.1 hlog with heq | hlog
    · cases heq
      exact ⟨List.mem_append_left _ (List.mem_map.2 ⟨_, hmem, rfl⟩), h.fits _ hmem⟩
    · exact h.taken c t n o hlog
  · refine List.nodup_cons.2 ⟨fun hin => ?_, h.once⟩
    obtain ⟨event, hevent, heq⟩ := List.mem_filterMap.1 hin
    exact hnew event hevent heq
  · intro later c t n o earlier hlog hlater
    cases later with
    | nil =>
      cases (List.cons.inj hlog).1
      exact hfound
    | cons event later =>
      exact h.current later c t n o earlier (List.cons.inj hlog).2
        fun hin => hlater (List.mem_cons_of_mem _ hin)
  · intro later c t n o between c' t' n' o' earlier hlog hbetween hkey
    cases later with
    | nil =>
      obtain ⟨heq, htail⟩ := List.cons.inj hlog
      cases heq
      have hcurrent := h.current between c' t' n' o' earlier htail hbetween
      rw [← hkey, hfound] at hcurrent
      cases hcurrent
      exact ⟨rfl, rfl⟩
    | cons event later =>
      exact h.steady later c t n o between c' t' n' o' earlier (List.cons.inj hlog).2 hbetween hkey

theorem ascending_cached {s : SharedPools} (h : Ascending s.roster) : Ascending s.pools.cached :=
  List.pairwise_map.1 h

/-- The pool that is kept for a target is that of its name. -/
theorem Sound.install {s : SharedPools} (h : s.Sound) {target : Option String}
    {options : ConnectOptions} (ho : s.pools.optionsFor target = .ok options) :
    { s with pools := (s.pools.install target options).2 }.Sound ∧
      (s.pools.install target options).2.cached? target =
        some (s.pools.install target options).1 := by
  unfold Pools.install
  cases hc : s.pools.cached? target with
  | some pool => exact ⟨h, hc⟩
  | none =>
    have hnone : find? (Pools.key target) s.roster = none := by rw [find?_roster, hc]; rfl
    refine ⟨?_, by rw [Pools.cached?, find?_insert (ascending_cached h.ascending), if_pos rfl]⟩
    let s' : SharedPools := { s with pools := { s.pools with
      cached := SortedTable.insert (Pools.key target) { serial := s.pools.made, options := options }
        s.pools.cached
      made := s.pools.made + 1 } }
    have hroster : s'.roster =
        SortedTable.insert (Pools.key target) (s.pools.made, options) s.roster :=
      insert_map (fun pool : Pool => (pool.serial, pool.options)) s.pools.cached
    have hperm : s'.serials.Perm (s.pools.made :: s.serials) := by
      rw [serials, hroster]
      exact ((upsert_perm hnone).map fun p => p.2.1).append_right s.removedSerials
    have hold : ∀ n ∈ s.serials, n ∈ s'.serials := fun n hn =>
      hperm.mem_iff.2 (List.mem_cons_of_mem _ hn)
    refine { h with
      ascending := hroster ▸ h.ascending.insert
      fits := fun p hp => ?_
      nodup := hperm.nodup_iff.2 (List.nodup_cons.2 ⟨fun hn => ?_, h.nodup⟩)
      made := fun n hn => ?_
      taken := fun c t n o hlog => (h.taken c t n o hlog).imp (hold n) id
      current := fun later c t n o earlier hlog hlater => ?_ }
    · rw [hroster] at hp
      rcases mem_insert hp with rfl | hp
      · exact ⟨target, rfl, ho⟩
      · exact h.fits p hp
    · exact absurd (h.made _ hn) (lt_irrefl _)
    · rcases List.mem_cons.1 (hperm.mem_iff.1 hn) with rfl | hn
      · exact Nat.lt_succ_self _
      · exact Nat.lt_succ_of_lt (h.made n hn)
    · have hfound := h.current later c t n o earlier hlog hlater
      have hne : Pools.key t ≠ Pools.key target := fun heq => by
        rw [heq, hnone] at hfound
        cases hfound
      rw [hroster, find?_insert h.ascending, if_neg hne]
      exact hfound

theorem removedSerials_empty (s : SharedPools) :
    s.empty.removedSerials = s.removedSerials ++ s.roster.map (·.2.1) := by
  rw [← map_serial, removedSerials, SharedPools.empty, List.map_append]
  rfl

theorem Sound.empty {s : SharedPools} (h : s.Sound) : s.empty.Sound := by
  have hremoved := s.removedSerials_empty
  have hperm : s.empty.serials.Perm s.serials := by
    have hnil : s.empty.roster = [] := rfl
    rw [serials, serials, hnil, hremoved, List.map_nil, List.nil_append]
    exact List.perm_append_comm
  refine {
    ascending := .nil
    fits := by simp [SharedPools.empty, roster, Pools.close]
    nodup := hperm.nodup_iff.2 h.nodup
    made := fun n hn => h.made n (hperm.mem_iff.1 hn)
    closed := fun n hn => hremoved ▸ List.mem_append_left _ (h.closed n hn)
    taken := fun c t n o hlog => ?_
    once := h.once
    current := fun later c t n o earlier hlog hlater => ?_
    steady := fun later c t n o between c' t' n' o' earlier hlog hbetween hkey => ?_ }
  · obtain ⟨hn, hfits⟩ := h.taken c t n o ((List.mem_cons.1 hlog).resolve_left (by simp))
    exact ⟨hperm.mem_iff.2 hn, hfits⟩
  · cases later with
    | nil => cases (List.cons.inj hlog).1
    | cons event later =>
      cases (List.cons.inj hlog).1
      exact absurd List.mem_cons_self hlater
  · cases later with
    | nil => cases (List.cons.inj hlog).1
    | cons event later =>
      exact h.steady later c t n o between c' t' n' o' earlier (List.cons.inj hlog).2 hbetween hkey

theorem Sound.shut {s : SharedPools} (h : s.Sound) {serial : Nat} (hs : serial ∈ s.removedSerials) :
    { s with closed := serial :: s.closed }.Sound :=
  { h with closed := List.forall_mem_cons.2 ⟨hs, h.closed⟩ }

/-- What the move of a call leaves to the others. -/
structure Frame (call : Nat) (s s' : SharedPools) : Prop where
  default : s'.pools.default = s.pools.default
  targets : s'.pools.targets = s.pools.targets
  removed : ∀ n ∈ s.removedSerials, n ∈ s'.removedSerials
  log : ∃ new, s'.log = new ++ s.log ∧ ∀ event ∈ new, ∀ c, event.call? = some c → c = call

theorem Frame.optionsFor {call : Nat} {s s' : SharedPools} (h : Frame call s s')
    (target : Option String) : s'.pools.optionsFor target = s.pools.optionsFor target := by
  simp only [Pools.optionsFor, h.default, h.targets]

theorem Alike.frame {s s' : SharedPools} (h : Alike s s') (call : Nat) : Frame call s s' :=
  ⟨h.default, h.targets, fun _ hn => h.removedSerials ▸ hn, [], h.log, by simp⟩

theorem frame_install (s : SharedPools) (call : Nat) (target : Option String)
    (options : ConnectOptions) :
    Frame call s { s with pools := (s.pools.install target options).2 } := by
  unfold Pools.install
  split
  all_goals exact ⟨rfl, rfl, fun _ hn => hn, [], rfl, by simp⟩

theorem Frame.take {s s' : SharedPools} {call : Nat} (h : Frame call s s') (target : Option String)
    (pool : Pool) : Frame call s (s'.take call target pool) := by
  obtain ⟨new, hlog, hnew⟩ := h.log
  refine { h with log := ⟨.took call target pool.serial pool.options :: new, ?_, ?_⟩ }
  · rw [SharedPools.take, hlog, List.cons_append]
  · intro event hevent c hc
    rcases List.mem_cons.1 hevent with rfl | hevent
    · exact (Option.some.inj hc).symm
    · exact hnew event hevent c hc

end SharedPools

/-! ## What holds of the calls -/

/-- What is true of an acquire that has come so far. -/
inductive Acquiring.Stands (call : Nat) (target : Option String) (s : SharedPools) :
    Acquiring → Prop
  | begun (hnew : ∀ event ∈ s.log, event.call? ≠ some call) : Stands call target s .begun
  | missed {options : ConnectOptions} (hnew : ∀ event ∈ s.log, event.call? ≠ some call)
    (ho : s.pools.optionsFor target = .ok options) : Stands call target s (.missed options)
  | refused {e : AcquireError} (ho : s.pools.optionsFor target = .error e) :
    Stands call target s (.answered (.error e))
  | holding {serial : Nat} {options : ConnectOptions}
    (ht : .took call target serial options ∈ s.log) : Stands call target s (.holding serial)
  | connected {serial : Nat} {options : ConnectOptions} {host : Host}
    (ht : .took call target serial options ∈ s.log) : Stands call target s (.connected serial host)
  | failed {serial : Nat} {options : ConnectOptions} {e : AcquireError}
    (ht : .took call target serial options ∈ s.log) (he : e = .connect ∨ e = .version) :
    Stands call target s (.answered (.error e))
  | served {inst : Instance} {options : ConnectOptions}
    (ht : .took call target inst.pool options ∈ s.log) :
    Stands call target s (.answered (.ok inst))
  | abandoned : Stands call target s .abandoned

/-- What a close has still to close has been removed. -/
def Closing.Stands (s : SharedPools) : Closing → Prop
  | .emptied serials => ∀ n ∈ serials, n ∈ s.removedSerials
  | .begun | .abandoned => True

/-- There is nothing left for the call to do. -/
def Call.IsOver : Call → Prop
  | .acquire _ (.answered _) | .acquire _ .abandoned | .close (.emptied []) | .close .abandoned =>
      True
  | _ => False

def Call.Stands (call : Nat) (s : SharedPools) : Call → Prop
  | .acquire target stage => stage.Stands call target s
  | .close stage => stage.Stands s

theorem Acquiring.Stands.frame {call mover : Nat} {target : Option String} {s s' : SharedPools}
    {stage : Acquiring} (h : stage.Stands call target s) (hf : SharedPools.Frame mover s s')
    (hne : mover ≠ call) : stage.Stands call target s' := by
  obtain ⟨new, hlog, hmover⟩ := hf.log
  have hkept : ∀ event ∈ s.log, event ∈ s'.log := fun event he =>
    hlog ▸ List.mem_append_right new he
  have hother : (∀ event ∈ s.log, event.call? ≠ some call) →
      ∀ event ∈ s'.log, event.call? ≠ some call := fun hnew event he hcall => by
    rw [hlog] at he
    rcases List.mem_append.1 he with he | he
    · exact hne (hmover event he call hcall).symm
    · exact hnew event he hcall
  cases h with
  | begun hnew => exact .begun (hother hnew)
  | missed hnew ho => exact .missed (hother hnew) (hf.optionsFor target ▸ ho)
  | refused ho => exact .refused (hf.optionsFor target ▸ ho)
  | holding ht => exact .holding (hkept _ ht)
  | connected ht => exact .connected (hkept _ ht)
  | failed ht he => exact .failed (hkept _ ht) he
  | served ht => exact .served (hkept _ ht)
  | abandoned => exact .abandoned

/-- What one move of an acquire keeps. -/
theorem Acquiring.Goes.keeps {call : Nat} {target : Option String} {s : SharedPools}
    {stage : Acquiring} {move : Call.Move} {out : Acquiring × SharedPools}
    (h : Goes call target s stage move out) (hs : s.Sound) (hstage : stage.Stands call target s) :
    out.2.Sound ∧ out.1.Stands call target out.2 ∧ SharedPools.Frame call s out.2 := by
  have hself : SharedPools.Frame call s s := (SharedPools.Alike.refl s).frame call
  cases h with
  | hit hc =>
    cases hstage with
    | begun hnew => exact ⟨hs.take hc hnew, .holding List.mem_cons_self, hself.take target _⟩
  | refused _ ho => exact ⟨hs, .refused ho, hself⟩
  | missed _ ho =>
    cases hstage with
    | begun hnew => exact ⟨hs, .missed hnew ho, hself⟩
  | keep =>
    cases hstage with
    | missed hnew ho =>
      obtain ⟨hsound, hc⟩ := hs.install ho
      exact ⟨hsound.take hc hnew, .holding List.mem_cons_self,
        (SharedPools.frame_install s call target _).take target _⟩
  | unconnected =>
    cases hstage with
    | holding ht => exact ⟨hs, .failed ht (.inl rfl), hself⟩
  | known _ hn =>
    cases hstage with
    | holding ht =>
      have ha := SharedPools.alike_connect hn
      exact ⟨hs.alike ha, .served (ha.log ▸ ht), ha.frame call⟩
  | connected _ hn =>
    cases hstage with
    | holding ht =>
      have ha := SharedPools.alike_connect hn
      exact ⟨hs.alike ha, .connected (ha.log ▸ ht), ha.frame call⟩
  | unknown =>
    cases hstage with
    | connected ht => exact ⟨hs, .failed ht (.inr rfl), hself⟩
  | discovered _ hd =>
    cases hstage with
    | connected ht =>
      have ha := SharedPools.alike_discover hd
      exact ⟨hs.alike ha, .served (ha.log ▸ ht), ha.frame call⟩
  | leave => exact ⟨hs, .abandoned, hself⟩

/-- What one move of a close keeps. -/
theorem Closing.Goes.keeps {s : SharedPools} {stage : Closing} {move : Call.Move}
    {out : Closing × SharedPools} (h : Goes s stage move out) (hs : s.Sound)
    (hstage : stage.Stands s) (call : Nat) :
    out.2.Sound ∧ out.1.Stands out.2 ∧ SharedPools.Frame call s out.2 := by
  cases h with
  | empty =>
    have hremoved : s.empty.removedSerials = s.removedSerials ++ s.roster.map (·.2.1) :=
      s.removedSerials_empty
    refine ⟨hs.empty, fun n hn => hremoved ▸ List.mem_append_right _ hn, rfl, rfl,
      fun n hn => hremoved ▸ List.mem_append_left _ hn, [.emptied], rfl, ?_⟩
    simp [PoolEvent.call?]
  | shut hserial =>
    exact ⟨hs.shut (hstage _ hserial), fun n hn => hstage n (List.mem_of_mem_erase hn), rfl, rfl,
      fun n hn => hn, [], rfl, by simp⟩
  | leave => exact ⟨hs, trivial, (SharedPools.Alike.refl s).frame call⟩

theorem Call.keeps {i : Nat} {s s' : SharedPools} {call call' : Call} {move : Move}
    (h : call.step i s move = some (call', s')) (hs : s.Sound) (hcall : call.Stands i s) :
    s'.Sound ∧ call'.Stands i s' ∧ SharedPools.Frame i s s' := by
  cases call with
  | acquire target stage =>
    obtain ⟨out, hout, heq⟩ := Option.map_eq_some_iff.1 h
    cases heq
    exact (Acquiring.goes_of_step hout).keeps hs hcall
  | close stage =>
    obtain ⟨out, hout, heq⟩ := Option.map_eq_some_iff.1 h
    cases heq
    exact (Closing.goes_of_step hout).keeps hs hcall i

theorem Call.Stands.frame {i mover : Nat} {s s' : SharedPools} {call : Call} (h : call.Stands i s)
    (hf : SharedPools.Frame mover s s') (hne : mover ≠ i) : call.Stands i s' := by
  cases call with
  | acquire target stage => exact Acquiring.Stands.frame h hf hne
  | close stage =>
    cases stage with
    | emptied serials => exact fun n hn => hf.removed n (h n hn)
    | begun => trivial
    | abandoned => trivial

/-! ## Runs -/

namespace Calls

/-- The pools are sound, and every call is where it may be. -/
structure Sound (t : Calls) : Prop where
  shared : t.shared.Sound
  calls : ∀ i (call : Call), t.calls[i]? = some call → call.Stands i t.shared

variable {t t' : Calls} {i : Nat} {move : Call.Move}

theorem exists_of_step (h : t.step i move = some t') : ∃ call call' s', t.calls[i]? = some call ∧
    call.step i t.shared move = some (call', s') ∧ t' = ⟨s', t.calls.set i call'⟩ := by
  obtain ⟨call, hcall, h⟩ := Option.bind_eq_some_iff.1 h
  obtain ⟨⟨call', s'⟩, hstep, rfl⟩ := Option.map_eq_some_iff.1 h
  exact ⟨call, call', s', hcall, hstep, rfl⟩

theorem Sound.step (ht : t.Sound) (h : t.step i move = some t') :
    t'.Sound ∧ SharedPools.Frame i t.shared t'.shared := by
  obtain ⟨call, call', s', hcall, hstep, rfl⟩ := exists_of_step h
  obtain ⟨hs, hstands, hframe⟩ := Call.keeps hstep ht.shared (ht.calls i call hcall)
  refine ⟨⟨hs, fun j c hc => ?_⟩, hframe⟩
  rcases getElem?_set_cases hcall hc with ⟨rfl, rfl⟩ | ⟨hj, hc⟩
  · exact hstands
  · exact (ht.calls j c hc).frame hframe hj.symm

/-- Calls change neither what is sound nor the options of the targets. -/
theorem Reaches.sound (h : Reaches t t') (ht : t.Sound) : t'.Sound ∧
    ∀ target, t'.shared.pools.optionsFor target = t.shared.pools.optionsFor target := by
  induction h with
  | refl => exact ⟨ht, fun _ => rfl⟩
  | turn i move _ hs ih =>
    obtain ⟨hsound, hframe⟩ := ih.1.step hs
    exact ⟨hsound, fun target => (hframe.optionsFor target).trans (ih.2 target)⟩

theorem sound_new (default : Option ConnectOptions) (targets : SortedTable String ConnectOptions)
    (settings : PoolSettings) (wishes : List Wish) :
    (new default targets settings wishes).Sound where
  shared := {
    ascending := .nil
    fits := by simp [new, SharedPools.roster]
    nodup := by simp [new, SharedPools.serials, SharedPools.roster, SharedPools.removedSerials]
    made := by simp [new, SharedPools.serials, SharedPools.roster, SharedPools.removedSerials]
    closed := by simp [new]
    taken := by simp [new]
    once := by simp [new]
    current := by simp [new]
    steady := by simp [Steady, new] }
  calls i call hcall := by
    obtain ⟨wish, -, rfl⟩ : ∃ wish, wishes[i]? = some wish ∧ wish.call = call := by
      simpa [new] using hcall
    cases wish with
    | acquire target => exact .begun (by simp [new])
    | close => trivial

/-- A pool whose serial was given out is there. -/
theorem exists_pool? {s : SharedPools} {n : Nat} (h : n ∈ s.serials) :
    ∃ pool, s.pool? n = some pool := by
  rw [SharedPools.serials, ← SharedPools.map_serial, SharedPools.removedSerials, ← List.map_append]
    at h
  obtain ⟨pool, hpool, rfl⟩ := List.mem_map.1 h
  exact Option.isSome_iff_exists.1 (List.find?_isSome.2 ⟨pool, hpool, by simp⟩)

/-- A call that is not over is not stuck. -/
theorem Sound.exists_turn (ht : t.Sound) {call : Call} (hcall : t.calls[i]? = some call)
    (hover : ¬ call.IsOver) : ∃ move, move ≠ .leave ∧ (t.step i move).isSome = true := by
  have hturn : ∀ move, (call.step i t.shared move).isSome = true →
      (t.step i move).isSome = true := fun move h => by
    rw [Calls.step, hcall, Option.bind_some, Option.isSome_map]
    exact h
  have hstands := ht.calls i call hcall
  cases call with
  | acquire target stage =>
    have hstep : ∀ move, (stage.step i target t.shared move).isSome = true →
        (t.step i move).isSome = true := fun move h =>
      hturn move (by rw [Call.step, Option.isSome_map]; exact h)
    cases hstands with
    | begun =>
      refine ⟨.look, by simp, hstep _ ?_⟩
      cases hc : t.shared.pools.cached? target with
      | some pool => simp [Acquiring.step, hc]
      | none => cases ho : t.shared.pools.optionsFor target <;> simp [Acquiring.step, hc, ho]
    | missed => exact ⟨.keep, by simp, hstep _ rfl⟩
    | holding h =>
      obtain ⟨pool, hpool⟩ := exists_pool? (ht.shared.taken _ _ _ _ h).1
      exact ⟨.connect fun _ => none, by simp, hstep _ (by simp [Acquiring.step, hpool])⟩
    | connected h =>
      obtain ⟨pool, hpool⟩ := exists_pool? (ht.shared.taken _ _ _ _ h).1
      exact ⟨.ask fun _ => none, by simp, hstep _ (by simp [Acquiring.step, hpool])⟩
    | refused | failed | served | abandoned => exact absurd trivial hover
  | close stage =>
    have hstep : ∀ move, (stage.step t.shared move).isSome = true →
        (t.step i move).isSome = true := fun move h =>
      hturn move (by rw [Call.step, Option.isSome_map]; exact h)
    cases stage with
    | begun => exact ⟨.empty, by simp, hstep _ rfl⟩
    | emptied serials =>
      cases serials with
      | nil => exact absurd trivial hover
      | cons n serials => exact ⟨.shut n, by simp, hstep _ (by simp [Closing.step])⟩
    | abandoned => exact absurd trivial hover

/-- What is true of calls on pools with these default options and targets. -/
structure Lawful (default : Option ConnectOptions) (targets : SortedTable String ConnectOptions)
    (t : Calls) : Prop where
  /-- One pool at most is cached for a target. -/
  unique : ∀ target pool pool', (Pools.key target, pool) ∈ t.shared.pools.cached →
    (Pools.key target, pool') ∈ t.shared.pools.cached → pool = pool'
  /-- What is taken for a target, between two removals of all pools, is one pool. -/
  steady : Steady t.shared.log
  /-- A pool that was taken for a target with a name has the options of that name. -/
  named : ∀ call name n options, .took call (some name) n options ∈ t.shared.log → name ≠ "" →
    find? name targets = some options
  /-- One that was taken for no target, or for the empty name, has the default options or those of
  the empty name. -/
  nameless : ∀ call target n options, .took call target n options ∈ t.shared.log →
    Pools.key target = "" → default = some options ∨ find? "" targets = some options
  /-- A call takes one pool at most. -/
  once : ∀ call target n options target' n' options', .took call target n options ∈ t.shared.log →
    .took call target' n' options' ∈ t.shared.log → n = n'
  /-- An acquire gives the pool that it took. -/
  served : ∀ (i : Nat) target inst,
    t.calls[i]? = some (.acquire target (.answered (.ok inst))) →
      ∃ options, .took i target inst.pool options ∈ t.shared.log
  /-- A call that is not over can go on. -/
  live : ∀ (i : Nat) (call : Call), t.calls[i]? = some call → ¬ call.IsOver →
    ∃ move, move ≠ .leave ∧ (t.step i move).isSome = true
  /-- An acquire of a name that no target has is refused as soon as it looks. -/
  unknown : ∀ (i : Nat) name stage, t.calls[i]? = some (.acquire (some name) stage) → name ≠ "" →
    find? name targets = none →
      stage = .abandoned ∨ stage = .answered (.error (.unknownTarget name)) ∨
        stage = .begun ∧ t.step i .look = some ⟨t.shared, t.calls.set i
          (.acquire (some name) (.answered (.error (.unknownTarget name))))⟩
  /-- The empty name, if no target has it, is refused only while no default pool is cached. -/
  emptyName : ∀ i : Nat, t.calls[i]? = some (.acquire (some "") .begun) → find? "" targets = none →
    match t.shared.pools.cached? none with
    | none => t.step i .look = some ⟨t.shared, t.calls.set i
        (.acquire (some "") (.answered (.error (.unknownTarget ""))))⟩
    | some pool => default = some pool.options ∧
        t.step i .look = some ⟨t.shared.take i (some "") pool,
          t.calls.set i (.acquire (some "") (.holding pool.serial))⟩

variable {default : Option ConnectOptions} {targets : SortedTable String ConnectOptions}
  {settings : PoolSettings} {wishes : List Wish}

/-- A pool of this name may have these options: those of the name, or the default ones if the name
is empty. -/
def Fits (default : Option ConnectOptions) (targets : SortedTable String ConnectOptions)
    (name : String) (options : ConnectOptions) : Prop :=
  find? name targets = some options ∨ name = "" ∧ default = some options

theorem fits_of_optionsFor {p : Pools} {target : Option String} {options : ConnectOptions}
    (h : p.optionsFor target = .ok options) :
    Fits p.default p.targets (Pools.key target) options := by
  cases target with
  | none =>
    cases hd : p.default with
    | none => simp [Pools.optionsFor, hd] at h
    | some o =>
      obtain rfl : o = options := by simpa [Pools.optionsFor, hd] using h
      exact .inr ⟨rfl, rfl⟩
  | some name =>
    cases hn : find? name p.targets with
    | none => simp [Pools.optionsFor, hn] at h
    | some o =>
      obtain rfl : o = options := by simpa [Pools.optionsFor, hn] using h
      exact .inl hn

variable {target : Option String} {name : String} {pool : Pool} {options : ConnectOptions}

/-- An acquire that finds no pool and no options is refused. -/
theorem step_refused {e : AcquireError} (hcall : t.calls[i]? = some (.acquire target .begun))
    (hc : t.shared.pools.cached? target = none) (ho : t.shared.pools.optionsFor target = .error e) :
    t.step i .look =
      some ⟨t.shared, t.calls.set i (.acquire target (.answered (.error e)))⟩ := by
  simp [step, hcall, Call.step, Acquiring.step, hc, ho]

/-- An acquire that finds a pool takes it. -/
theorem step_hit (hcall : t.calls[i]? = some (.acquire target .begun))
    (hc : t.shared.pools.cached? target = some pool) :
    t.step i .look = some ⟨t.shared.take i target pool,
      t.calls.set i (.acquire target (.holding pool.serial))⟩ := by
  simp [step, hcall, Call.step, Acquiring.step, hc]

namespace Reaches

variable (h : Reaches (new default targets settings wishes) t)

include h

theorem sound_of_new : t.Sound := (h.sound (sound_new default targets settings wishes)).1

theorem optionsFor (target : Option String) : t.shared.pools.optionsFor target =
    (new default targets settings wishes).shared.pools.optionsFor target :=
  (h.sound (sound_new default targets settings wishes)).2 target

theorem fits (hname : ∃ target, Pools.key target = name ∧
    t.shared.pools.optionsFor target = .ok options) : Fits default targets name options := by
  obtain ⟨target, rfl, ho⟩ := hname
  exact fits_of_optionsFor (h.optionsFor target ▸ ho)

theorem fits_taken {call n : Nat} (hlog : .took call target n options ∈ t.shared.log) :
    Fits default targets (Pools.key target) options :=
  h.fits (h.sound_of_new.shared.taken call target n options hlog).2

theorem fits_cached (hc : t.shared.pools.cached? target = some pool) :
    Fits default targets (Pools.key target) pool.options := by
  have hroster : find? (Pools.key target) t.shared.roster = some (pool.serial, pool.options) := by
    rw [SharedPools.find?_roster, hc]
    rfl
  exact h.fits (h.sound_of_new.shared.fits _ (mem_of_find? hroster))

theorem optionsFor_unknown (hnone : find? name targets = none) :
    t.shared.pools.optionsFor (some name) = .error (.unknownTarget name) := by
  rw [h.optionsFor]
  simp only [new, Pools.optionsFor, hnone]

/-- An acquire of a name that no target has comes no further than to be refused. -/
theorem unknown {stage : Acquiring} (hcall : t.calls[i]? = some (.acquire (some name) stage))
    (hname : name ≠ "") (hnone : find? name targets = none) :
    stage = .abandoned ∨ stage = .answered (.error (.unknownTarget name)) ∨
      stage = .begun ∧ t.step i .look = some ⟨t.shared, t.calls.set i
        (.acquire (some name) (.answered (.error (.unknownTarget name))))⟩ := by
  have hnever : ∀ options, ¬ Fits default targets name options := by
    rintro options (hfound | ⟨hempty, -⟩)
    · cases hnone.symm.trans hfound
    · exact hname hempty
  have hrefused := h.optionsFor_unknown hnone
  cases h.sound_of_new.calls i _ hcall with
  | begun =>
    refine .inr (.inr ⟨rfl, step_refused hcall ?_ hrefused⟩)
    cases hc : t.shared.pools.cached? (some name) with
    | none => rfl
    | some pool => exact absurd (h.fits_cached hc) (hnever _)
  | missed _ ho => cases hrefused.symm.trans ho
  | refused ho =>
    cases hrefused.symm.trans ho
    exact .inr (.inl rfl)
  | holding ht | connected ht | served ht => exact absurd (h.fits_taken ht) (hnever _)
  | failed ht => exact absurd (h.fits_taken ht) (hnever _)
  | abandoned => exact .inl rfl

/-- An acquire of the empty name, which no target has, takes a default pool if there is one. -/
theorem emptyName (hcall : t.calls[i]? = some (.acquire (some "") .begun))
    (hnone : find? "" targets = none) :
    match t.shared.pools.cached? none with
    | none => t.step i .look = some ⟨t.shared, t.calls.set i
        (.acquire (some "") (.answered (.error (.unknownTarget ""))))⟩
    | some pool => default = some pool.options ∧
        t.step i .look = some ⟨t.shared.take i (some "") pool,
          t.calls.set i (.acquire (some "") (.holding pool.serial))⟩ := by
  cases hc : t.shared.pools.cached? none with
  | none => exact step_refused hcall hc (h.optionsFor_unknown hnone)
  | some pool =>
    refine ⟨?_, step_hit hcall hc⟩
    rcases h.fits_cached hc with hfound | ⟨-, hdefault⟩
    · cases hnone.symm.trans hfound
    · exact hdefault

theorem lawful : Lawful default targets t where
  unique := fun target pool pool' hpool hpool' => by
    have ha := SharedPools.ascending_cached h.sound_of_new.shared.ascending
    exact Option.some.inj ((ha.find? hpool).symm.trans (ha.find? hpool'))
  steady := h.sound_of_new.shared.steady
  named := fun call name n options hlog hname =>
    (h.fits_taken hlog).resolve_right fun hempty => hname hempty.1
  nameless := fun call target n options hlog hkey => by
    rcases h.fits_taken hlog with hfound | ⟨-, hdefault⟩
    · exact .inr (hkey ▸ hfound)
    · exact .inl hdefault
  once := fun call target n options target' n' options' hlog hlog' => by
    cases eq_of_nodup_filterMap h.sound_of_new.shared.once hlog hlog' rfl rfl
    rfl
  served := fun i target inst hcall => by
    cases h.sound_of_new.calls i _ hcall with
    | served ht => exact ⟨_, ht⟩
  live := fun i call hcall hover => h.sound_of_new.exists_turn hcall hover
  unknown := fun i name stage hcall hname hnone => h.unknown hcall hname hnone
  emptyName := fun i hcall hnone => h.emptyName hcall hnone

end Reaches

/-- An acquire of the empty name, which no target has, takes the pool of the default options. -/
theorem lawful_emptyName : ∃ t, Reaches
    (new (some {}) [] {} [.acquire none, .acquire (some ""), .acquire (some "a"), .close]) t ∧
      t.calls[1]? = some (.acquire (some "") (.holding 0)) ∧ Lawful (some {}) [] t := by
  let start := new (some {}) [] {} [.acquire none, .acquire (some ""), .acquire (some "a"), .close]
  have hreach :=
    Reaches.turn 1 .look (.turn 0 .keep (.turn 0 .look (.refl (t := start)) rfl) rfl) rfl
  exact ⟨_, hreach, rfl, hreach.lawful⟩

end Calls
end MysqlMetrics
