import Mathlib.Data.List.Nodup
import MysqlMetrics.Proofs.Connection.Calls
/-!
# One call alone

A call that nobody comes between does with the pools what `Pools.acquire` (`reaches_acquire`) and
`Pools.close` (`reaches_close`) do. Calls know a pool by its serial, and these by its name: while no
two pools have one serial (`SharedPools.Sound`), it is the same pool.
-/
namespace MysqlMetrics

open SortedTable

namespace SharedPools

variable {s : SharedPools} {target : Option String} {pool : Pool}

theorem Sound.nodup_pools (h : s.Sound) :
    ((values s.pools.cached ++ s.removed).map (·.serial)).Nodup := by
  rw [List.map_append, map_serial]
  exact h.nodup

theorem mem_values_of_cached (hc : s.pools.cached? target = some pool) :
    pool ∈ values s.pools.cached :=
  List.mem_map.2 ⟨_, mem_of_find? hc, rfl⟩

/-- The pools of one serial are one. -/
theorem Sound.eq_of_serial (h : s.Sound) {q q' : Pool} (hq : q ∈ values s.pools.cached ++ s.removed)
    (hq' : q' ∈ values s.pools.cached ++ s.removed) (heq : q.serial = q'.serial) : q = q' :=
  List.inj_on_of_nodup_map h.nodup_pools hq hq' heq

theorem Sound.pool?_cached (h : s.Sound) (hc : s.pools.cached? target = some pool) :
    s.pool? pool.serial = some pool := by
  have hmem := List.mem_append_left s.removed (mem_values_of_cached hc)
  cases hfound : s.pool? pool.serial with
  | none => simpa using List.find?_eq_none.1 hfound pool hmem
  | some q =>
    have hserial : q.serial = pool.serial := by simpa using List.find?_some hfound
    rw [h.eq_of_serial (List.mem_of_find?_eq_some hfound) hmem hserial]

/-- A cached pool has not been closed. -/
theorem Sound.contains_closed (h : s.Sound) (hc : s.pools.cached? target = some pool) :
    s.closed.contains pool.serial = false := by
  have hcached : pool.serial ∈ s.roster.map (·.2.1) :=
    map_serial s ▸ List.mem_map_of_mem (mem_values_of_cached hc)
  have hremoved : pool.serial ∉ s.removedSerials := fun hin =>
    List.disjoint_of_nodup_append h.nodup hcached hin
  simpa using fun hin => hremoved (h.closed _ hin)

/-- To change the pool of a serial is to change that of its name. -/
theorem Sound.pools_alter (h : s.Sound) (hc : s.pools.cached? target = some pool)
    (f : Pool → Pool) : (s.alter pool.serial f).pools = s.pools.update target (f pool) := by
  have hmem : (Pools.key target, pool) ∈ s.pools.cached := mem_of_find? hc
  have hserials : (s.pools.cached.map (·.2.serial)).Nodup := by
    have hroster := (List.nodup_append.1 h.nodup).1
    rwa [roster, List.map_map] at hroster
  have hentries : (s.pools.cached.map fun p =>
        (p.1, if p.2.serial = pool.serial then f p.2 else p.2)) =
      adjust (Pools.key target) (fun _ => f pool) s.pools.cached := by
    refine List.map_congr_left fun p hp => ?_
    by_cases hserial : p.2.serial = pool.serial
    · obtain rfl : p = (Pools.key target, pool) :=
        List.inj_on_of_nodup_map hserials hp hmem hserial
      simp
    · have hkey : Pools.key target ≠ p.1 := fun hkey => by
        have hfound := (ascending_cached h.ascending).find? (k := p.1) (v := p.2) hp
        rw [← hkey] at hfound
        exact hserial (congrArg Pool.serial (Option.some.inj (hfound.symm.trans hc)))
      simp [hserial, hkey]
  rw [alter, Pools.update, ← hentries]

theorem cached?_alter {serial : Nat} {f : Pool → Pool} :
    (s.alter serial f).pools.cached? target = (s.pools.cached? target).map fun q =>
      if q.serial = serial then f q else q :=
  find?_map (fun q : Pool => if q.serial = serial then f q else q) s.pools.cached

/-! ### A connection and a version -/

/-- A connection of a cached pool is made as if the pool were alone. -/
theorem Sound.connect_cached (h : s.Sound) (hc : s.pools.cached? target = some pool)
    (net : Network) :
    match s.pools.connect net target pool with
    | none => s.connect net pool = none
    | some (host, pool', p) => ∃ s', s.connect net pool = some (host, s') ∧ s'.pools = p ∧
        s'.pools.cached? target = some pool' ∧ pool'.serial = pool.serial ∧
        pool'.options = pool.options ∧ pool'.info = pool.info ∧ net pool.options = some host := by
  unfold Pools.connect SharedPools.connect
  rw [if_neg (by simpa using h.contains_closed hc)]
  cases hnet : net pool.options with
  | none => rfl
  | some host =>
    dsimp only
    by_cases hlive : pool.isLive = true
    · rw [if_pos hlive, if_pos hlive]
      exact ⟨s, rfl, rfl, hc, rfl, rfl, rfl, rfl⟩
    · rw [if_neg hlive, if_neg hlive]
      by_cases hopen : host.isOpen = true
      · rw [if_pos hopen, if_pos hopen]
        have hstarted : s.started.Sound := h.alike s.alike_started
        refine ⟨_, rfl, hstarted.pools_alter hc _, ?_, rfl, rfl, rfl, rfl⟩
        have hfound : s.started.pools.cached? target = some pool := hc
        rw [cached?_alter, hfound, Option.map_some, if_pos rfl]
      · rw [if_neg hopen, if_neg hopen]

/-- A cached pool learns the version as if it were alone. -/
theorem Sound.discover_cached (h : s.Sound) (hc : s.pools.cached? target = some pool)
    {net : Network} {host : Host} (hnet : net pool.options = some host) (hi : pool.info = none) :
    match host.version with
    | none => s.discover net pool = none
    | some text => ∃ s', s.discover net pool = some (ServerInfo.parse text, s') ∧
        s'.pools = s.pools.update target { pool with info := some (ServerInfo.parse text) } := by
  have hopen := h.contains_closed hc
  cases hv : host.version with
  | none => rw [discover, hi, hopen, if_neg Bool.false_ne_true, hnet, Option.bind_some, hv]; rfl
  | some text =>
    refine ⟨s.alter pool.serial fun q => { q with info := some (ServerInfo.parse text) }, ?_,
      h.pools_alter hc _⟩
    rw [discover, hi, hopen, if_neg Bool.false_ne_true, hnet, Option.bind_some, hv]
    rfl

end SharedPools

/-! ### The turns -/

namespace Calls

variable {t : Calls} {i : Nat} {target : Option String}

theorem Reaches.trans {t₁ t₂ t₃ : Calls} (h : Reaches t₁ t₂) (h' : Reaches t₂ t₃) :
    Reaches t₁ t₃ := by
  induction h' with
  | refl => exact h
  | turn i move _ hs ih => exact .turn i move ih hs

/-- The calls after an acquire has come so far. -/
def after (t : Calls) (i : Nat) (target : Option String) (stage : Acquiring) (s : SharedPools) :
    Calls :=
  ⟨s, t.calls.set i (.acquire target stage)⟩

theorem step_after {stage stage' : Acquiring} {s s' : SharedPools} {move : Call.Move}
    (hi : i < t.calls.length) (h : stage.step i target s move = some (stage', s')) :
    (t.after i target stage s).step i move = some (t.after i target stage' s') := by
  simp [step, after, hi, Call.step, h]

/-- The turn of an acquire that has only begun. -/
theorem reaches_look {stage : Acquiring} {s : SharedPools}
    (hcall : t.calls[i]? = some (.acquire target .begun))
    (h : Acquiring.step i target t.shared .begun .look = some (stage, s)) :
    Reaches t (t.after i target stage s) := by
  have hself : t.after i target .begun t.shared = t := by rw [after, set_eq_self hcall]
  have hstep := step_after (List.getElem?_eq_some_iff.1 hcall).1 h
  rw [hself] at hstep
  exact .turn i .look .refl hstep

/-- An acquire finds or makes its pool as if it were alone. -/
theorem reaches_enter (ht : t.Sound) (hcall : t.calls[i]? = some (.acquire target .begun)) :
    match t.shared.pools.enter target with
    | (.error e, p) => ∃ s, Reaches t (t.after i target (.answered (.error e)) s) ∧ s.pools = p
    | (.ok pool, p) => ∃ s, Reaches t (t.after i target (.holding pool.serial) s) ∧ s.pools = p ∧
        s.pools.cached? target = some pool := by
  unfold Pools.enter
  cases hc : t.shared.pools.cached? target with
  | some pool =>
    refine ⟨t.shared.take i target pool, reaches_look hcall ?_, rfl, hc⟩
    simp [Acquiring.step, hc]
  | none =>
    cases ho : t.shared.pools.optionsFor target with
    | error e =>
      refine ⟨t.shared, reaches_look hcall ?_, rfl⟩
      simp [Acquiring.step, hc, ho]
    | ok options =>
      have hmissed : Reaches t (t.after i target (.missed options) t.shared) :=
        reaches_look hcall (by simp [Acquiring.step, hc, ho])
      have hkeep := step_after (t := t) (List.getElem?_eq_some_iff.1 hcall).1
        (show Acquiring.step i target t.shared (.missed options) .keep = some _ from rfl)
      exact ⟨_, .turn i .keep hmissed hkeep, rfl, (ht.shared.install ho).2⟩

variable {pool : Pool} {s : SharedPools}

/-- An acquire that has a connection learns the version as if it were alone. -/
theorem reaches_version (hi : i < t.calls.length) (hs : s.Sound)
    (hc : s.pools.cached? target = some pool) {net : Network} {host : Host}
    (hnet : net pool.options = some host) (hinfo : pool.info = none) : ∃ result s',
      Reaches (t.after i target (.connected pool.serial host) s)
        (t.after i target (.answered result) s') ∧
      (result.map (·.server), s'.pools) =
        match host.version with
        | none => (.error .version, s.pools)
        | some text =>
          (.ok ⟨ServerInfo.parse text, host.database⟩,
            s.pools.update target { pool with info := some (ServerInfo.parse text) }) := by
  have hfound := hs.pool?_cached hc
  have hdiscover := hs.discover_cached hc hnet hinfo
  cases hv : host.version with
  | none =>
    rw [hv] at hdiscover
    have hask : Acquiring.step i target s (.connected pool.serial host) (.ask net) =
        some (.answered (.error .version), s) := by
      simp [Acquiring.step, hfound, show s.discover net pool = none from hdiscover]
    exact ⟨_, s, .turn i (.ask net) .refl (step_after hi hask), rfl⟩
  | some text =>
    rw [hv] at hdiscover
    obtain ⟨s', hlearned, hpools⟩ := hdiscover
    have hask : Acquiring.step i target s (.connected pool.serial host) (.ask net) =
        some (.answered (.ok ⟨pool.serial, ⟨ServerInfo.parse text, host.database⟩⟩), s') := by
      simp [Acquiring.step, hfound, hlearned]
    exact ⟨_, s', .turn i (.ask net) .refl (step_after hi hask), by rw [hpools]; rfl⟩

/-- An acquire that has its pool is answered as if it were alone. -/
theorem reaches_answer (hi : i < t.calls.length) (hs : s.Sound)
    (hc : s.pools.cached? target = some pool) (net : Network) : ∃ result s',
      Reaches (t.after i target (.holding pool.serial) s) (t.after i target (.answered result) s') ∧
      (result.map (·.server), s'.pools) =
        match s.pools.connect net target pool with
        | none => (.error .connect, s.pools)
        | some (host, pool, p) =>
          match pool.info, host.version with
          | some info, _ => (.ok ⟨info, host.database⟩, p)
          | none, none => (.error .version, p)
          | none, some text =>
            (.ok ⟨ServerInfo.parse text, host.database⟩,
              p.update target { pool with info := some (ServerInfo.parse text) }) := by
  have hfound := hs.pool?_cached hc
  have hconnect := hs.connect_cached hc net
  cases hn : s.pools.connect net target pool with
  | none =>
    rw [hn] at hconnect
    have hstep : Acquiring.step i target s (.holding pool.serial) (.connect net) =
        some (.answered (.error .connect), s) := by
      simp [Acquiring.step, hfound, show s.connect net pool = none from hconnect]
    exact ⟨_, s, .turn i (.connect net) .refl (step_after hi hstep), rfl⟩
  | some out =>
    obtain ⟨host, pool', p⟩ := out
    rw [hn] at hconnect
    obtain ⟨s', hs', rfl, hc', hserial, hoptions, hinfo, hnet⟩ := hconnect
    dsimp only
    cases hknown : pool.info with
    | some info =>
      have hstep : Acquiring.step i target s (.holding pool.serial) (.connect net) =
          some (.answered (.ok ⟨pool.serial, ⟨info, host.database⟩⟩), s') := by
        simp [Acquiring.step, hfound, hs', hknown]
      rw [hinfo, hknown]
      exact ⟨_, s', .turn i (.connect net) .refl (step_after hi hstep), rfl⟩
    | none =>
      have hstep : Acquiring.step i target s (.holding pool.serial) (.connect net) =
          some (.connected pool'.serial host, s') := by
        simp [Acquiring.step, hfound, hs', hknown, hserial]
      have hconnected := Reaches.turn i (.connect net) .refl (step_after (t := t) hi hstep)
      have hinfo' : pool'.info = none := hinfo.trans hknown
      obtain ⟨result, last, hreach, heq⟩ := reaches_version hi
        (hs.alike (SharedPools.alike_connect hs')) hc' (hoptions ▸ hnet) hinfo'
      refine ⟨result, last, hconnected.trans hreach, heq.trans ?_⟩
      rw [hinfo']
      cases host.version <;> rfl

/-- **One acquire alone** leaves the pools and gives the server that `Pools.acquire` does. -/
theorem reaches_acquire (ht : t.Sound) (hcall : t.calls[i]? = some (.acquire target .begun))
    (net : Network) : ∃ result s, Reaches t (t.after i target (.answered result) s) ∧
      (result.map (·.server), s.pools) = t.shared.pools.acquire net target := by
  have henter := reaches_enter ht hcall
  unfold Pools.acquire
  generalize t.shared.pools.enter target = out at henter ⊢
  obtain ⟨entered, p⟩ := out
  cases entered with
  | error e =>
    obtain ⟨s, hreach, rfl⟩ := henter
    exact ⟨_, s, hreach, rfl⟩
  | ok pool =>
    obtain ⟨s, hreach, rfl, hc⟩ := henter
    have hs : s.Sound := (hreach.sound ht).1.shared
    obtain ⟨result, s', hreach', heq⟩ :=
      reaches_answer (List.getElem?_eq_some_iff.1 hcall).1 hs hc net
    exact ⟨result, s', hreach.trans hreach', heq⟩

/-- Pools that are to be closed are closed one after the other. -/
theorem reaches_shut {calls : List Call} (hi : i < calls.length) (serials : List Nat)
    (shared : SharedPools) : ∃ closed,
    Reaches ⟨shared, calls.set i (.close (.emptied serials))⟩
        ⟨{ shared with closed := closed }, calls.set i (.close (.emptied []))⟩ ∧
      ∀ n, n ∈ closed ↔ n ∈ serials ∨ n ∈ shared.closed := by
  induction serials generalizing shared with
  | nil => exact ⟨shared.closed, .refl, by simp⟩
  | cons serial serials ih =>
    obtain ⟨closed, hreach, hclosed⟩ := ih { shared with closed := serial :: shared.closed }
    have hstep :
        step ⟨shared, calls.set i (.close (.emptied (serial :: serials)))⟩ i (.shut serial) =
        some ⟨{ shared with closed := serial :: shared.closed },
          calls.set i (.close (.emptied serials))⟩ := by
      simp [step, hi, Call.step, Closing.step]
    refine ⟨closed, Reaches.trans (.turn i (.shut serial) .refl hstep) hreach, fun n => ?_⟩
    rw [hclosed, List.mem_cons, List.mem_cons]
    tauto

/-- **One close alone** empties the pools, and closes all that were cached. -/
theorem reaches_close (hcall : t.calls[i]? = some (.close .begun)) : ∃ s,
    Reaches t ⟨s, t.calls.set i (.close (.emptied []))⟩ ∧ s.pools = t.shared.pools.close ∧
      ∀ p ∈ t.shared.pools.cached, p.2.serial ∈ s.closed := by
  have hi := (List.getElem?_eq_some_iff.1 hcall).1
  have hstep : t.step i .empty = some ⟨t.shared.empty, t.calls.set i (.close (.emptied
      ((values t.shared.pools.cached).map (·.serial))))⟩ := by
    simp [step, hcall, Call.step, Closing.step]
  obtain ⟨closed, hreach, hclosed⟩ := reaches_shut hi
    ((values t.shared.pools.cached).map (·.serial)) t.shared.empty
  refine ⟨_, Reaches.trans (.turn i .empty .refl hstep) hreach, rfl, fun p hp => ?_⟩
  exact (hclosed _).2 (.inl (List.mem_map_of_mem (List.mem_map_of_mem hp)))

end Calls
end MysqlMetrics
