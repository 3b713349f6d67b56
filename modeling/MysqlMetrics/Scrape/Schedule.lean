import MysqlMetrics.Scrape.Turn
/-!
# Schedules

A scrape goes on until nobody can move. A schedule says which of all possible orders of moves is
taken, and every order is taken by some schedule (`Schedule.through`). Every order ends: moves use
up `turnsLeft` (`turnsLeft_lt`), so `Machine.run` is a schedule too (`Schedule.inOrder`).

Workers may also be dropped as soon as they were spawned. Then it is a race which of them have
begun, and a schedule says how it ends.
-/
namespace MysqlMetrics

/-! ## Sums over workers -/

namespace Worker

def total (f : Worker → Nat) (ws : List Worker) : Nat := ws.foldr (fun w n => f w + n) 0

variable {f g : Worker → Nat}

theorem total_set : ∀ {ws : List Worker} {i : Nat} {w v : Worker}, ws[i]? = some w →
    total f (ws.set i v) + f w = total f ws + f v
  | [], _, _, _, h => by simp at h
  | u :: ws, 0, w, v, h => by
    simp only [List.getElem?_cons_zero, Option.some.injEq] at h
    subst h
    simp only [List.set_cons_zero, total, List.foldr_cons]
    omega
  | u :: ws, i + 1, w, v, h => by
    have ih := total_set (v := v) (by simpa using h : ws[i]? = some w)
    simp only [total] at ih
    simp only [List.set_cons_succ, total, List.foldr_cons]
    omega

theorem total_le : ∀ {ws : List Worker}, (∀ w ∈ ws, f w ≤ g w) → total f ws ≤ total g ws
  | [], _ => Nat.le_refl _
  | w :: ws, h => Nat.add_le_add (h w (by simp)) (total_le fun v hv => h v (by simp [hv]))

theorem total_lt : ∀ {ws : List Worker}, (∀ w ∈ ws, f w ≤ g w) → (∃ w ∈ ws, f w < g w) →
    total f ws < total g ws
  | [], _, h => by simp at h
  | w :: ws, hle, h => by
    have hw := hle w (by simp)
    have hws : ∀ v ∈ ws, f v ≤ g v := fun v hv => hle v (by simp [hv])
    rcases h with ⟨v, hv, hlt⟩
    rcases List.mem_cons.1 hv with rfl | hv
    · exact Nat.add_lt_add_of_lt_of_le hlt (total_le hws)
    · exact Nat.add_lt_add_of_le_of_lt hw (total_lt hws ⟨v, hv, hlt⟩)

/-- One for a worker that will be woken. -/
def toWake (now : Nat) (w : Worker) : Nat := if w.wake?.any (now < ·) then 1 else 0

theorem toWake_le_one (now : Nat) (w : Worker) : w.toWake now ≤ 1 := by
  unfold toWake; split <;> omega

theorem toWake_mono {now later : Nat} (h : now ≤ later) (w : Worker) :
    w.toWake later ≤ w.toWake now := by
  unfold toWake
  cases w.wake? with
  | none => simp
  | some t => simp only [Option.any_some, decide_eq_true_eq]; split <;> split <;> omega

end Worker

namespace Machine

/-! ## Moves -/

/-- The machines that moves lead to. -/
inductive Reaches (m : Machine) : Machine → Prop
  | refl : Reaches m m
  | move {m₁ m₂ : Machine} (choice : Choice) (h : Reaches m m₁) (hs : m₁.step choice = some m₂) :
    Reaches m m₂

/-- Nobody can move. -/
def Settled (m : Machine) : Prop := ∀ choice, m.step choice = none

variable {m m' : Machine}

theorem Reaches.trans {m₁ m₂ m₃ : Machine} (h : Reaches m₁ m₂) (h' : Reaches m₂ m₃) :
    Reaches m₁ m₃ := by
  induction h' with
  | refl => exact h
  | move choice _ hs ih => exact .move choice ih hs

theorem work_eq_some {i : Nat} (h : m.work i = some m') :
    ∃ w moved, m.workers[i]? = some w ∧ w.Turn m.start m.now m.deadline m.sink moved ∧
      m' = { m with
        workers := m.workers.set i moved.worker
        sink := moved.sink
        failures := if moved.failed then m.failures ++ [w.name] else m.failures } := by
  obtain ⟨w, hw, h⟩ := Option.bind_eq_some_iff.1 h
  obtain ⟨moved, hm, rfl⟩ := Option.map_eq_some_iff.1 h
  exact ⟨w, moved, hw, Worker.turn_of_step hm, rfl⟩

theorem drain_eq_some (h : m.drain = some m') :
    m.sink.reader ≠ .gone ∧ ∃ s rest, m.sink.queue = s :: rest ∧
      m' = { m with sink := { m.sink with queue := rest }, builder := (m.builder.push s).2 } := by
  unfold drain Sink.receive at h
  split at h
  · rename_i hr
    split at hr <;> cases hr
    rename_i hg hq
    cases h
    exact ⟨by simpa using hg, _, _, hq, rfl⟩
  · cases h

theorem stop_eq_some (h : m.stop = some m') :
    m.hardStop ≤ m.now ∧ m.sink.isClosed = false ∧ m' = { m with sink := m.sink.close } := by
  unfold stop at h
  split at h
  · rename_i hc
    cases h
    simp only [Bool.and_eq_true, decide_eq_true_eq, Bool.not_eq_true'] at hc
    exact ⟨hc.1.1, hc.1.2, rfl⟩
  · cases h

theorem wait_eq_some (h : m.wait = some m') :
    m.canMove = false ∧ ∃ t, m.timers.min? = some t ∧ m' = { m with now := t } := by
  unfold wait at h
  split at h
  · cases h
  · rename_i hc
    obtain ⟨t, ht, rfl⟩ := Option.map_eq_some_iff.1 h
    exact ⟨by simpa using hc, t, ht, rfl⟩

/-! ## Every order of moves ends -/

/-- One for a moment that is still to come. -/
def ahead (now t : Nat) : Nat := if now < t then 1 else 0

theorem ahead_mono {now later : Nat} (h : now ≤ later) (t : Nat) : ahead later t ≤ ahead now t := by
  unfold ahead; split <;> split <;> omega

theorem ahead_self_lt {now t : Nat} (h : now < t) : ahead t t < ahead now t := by simp [ahead, h]

/-- Twice the moves of the workers and the reader, and the moves of time. -/
def turnsLeft (m : Machine) : Nat :=
  Worker.total (fun w => 2 * w.weight + w.toWake m.now) m.workers + 2 * m.sink.queue.length +
    ahead m.now m.deadline + ahead m.now m.hardStop + (!m.sink.isClosed).toNat

theorem turnsLeft_work {i : Nat} (h : m.work i = some m') : m'.turnsLeft < m.turnsLeft := by
  obtain ⟨w, moved, hw, ht, rfl⟩ := work_eq_some h
  have hsum := Worker.total_set (f := fun w => 2 * w.weight + w.toWake m.now) (v := moved.worker) hw
  have hlt := ht.weight_lt
  have h1 := moved.worker.toWake_le_one m.now
  have hclosed : moved.sink.isClosed = m.sink.isClosed := by
    rcases ht.sink_eq with e | ⟨_, s, e⟩
    · rw [e]
    · rw [e]
      rfl
  simp only [turnsLeft, hardStop, hclosed] at hsum ⊢
  omega

theorem turnsLeft_drain (h : m.drain = some m') : m'.turnsLeft < m.turnsLeft := by
  obtain ⟨-, s, rest, hq, rfl⟩ := drain_eq_some h
  have hclosed : Sink.isClosed { m.sink with queue := rest } = m.sink.isClosed := rfl
  simp only [turnsLeft, hardStop, hclosed, hq, List.length_cons]
  omega

theorem turnsLeft_stop (h : m.stop = some m') : m'.turnsLeft < m.turnsLeft := by
  obtain ⟨-, hc, rfl⟩ := stop_eq_some h
  have hcl : m.sink.close.isClosed = true := by unfold Sink.close Sink.isClosed; split <;> rfl
  have hq : m.sink.close.queue = m.sink.queue := rfl
  simp only [turnsLeft, hardStop, hq, hcl, hc, Bool.not_true, Bool.not_false, Bool.toNat_true,
    Bool.toNat_false]
  omega

theorem toWake_later {t : Nat} (h : m.now ≤ t) :
    ∀ w ∈ m.workers, 2 * w.weight + w.toWake t ≤ 2 * w.weight + w.toWake m.now :=
  fun w _ => Nat.add_le_add_left (w.toWake_mono h) _

/-- Time takes no turns. -/
theorem turnsLeft_later {t : Nat} (h : m.now ≤ t) :
    turnsLeft { m with now := t } ≤ m.turnsLeft := by
  have hle := Worker.total_le (toWake_later h)
  have hd := ahead_mono h m.deadline
  have hs := ahead_mono h m.hardStop
  have hstop : Machine.hardStop { m with now := t } = m.hardStop := rfl
  simp only [turnsLeft, hstop]
  omega

/-- Time moves to a timer, which is then no longer ahead. -/
theorem turnsLeft_timer {t : Nat} (h : t ∈ m.timers) :
    turnsLeft { m with now := t } < m.turnsLeft := by
  simp only [timers, List.mem_filter, List.mem_append, decide_eq_true_eq] at h
  obtain ⟨hmem, hlt⟩ := h
  have hmono := toWake_later (Nat.le_of_lt hlt)
  have hle := Worker.total_le hmono
  have hd := ahead_mono (Nat.le_of_lt hlt) m.deadline
  have hs := ahead_mono (Nat.le_of_lt hlt) m.hardStop
  have hstop : Machine.hardStop { m with now := t } = m.hardStop := rfl
  simp only [turnsLeft, hstop]
  rcases hmem with hlim | hwake
  · split at hlim
    · simp at hlim
    · simp only [List.mem_cons, List.not_mem_nil, or_false] at hlim
      rcases hlim with rfl | rfl
      · have := ahead_self_lt hlt
        omega
      · have := ahead_self_lt hlt
        omega
  · obtain ⟨w, hw, hwt⟩ := List.mem_filterMap.1 hwake
    have := Worker.total_lt hmono ⟨w, hw, by simp [Worker.toWake, hwt, hlt]⟩
    omega

theorem turnsLeft_wait (h : m.wait = some m') : m'.turnsLeft < m.turnsLeft := by
  obtain ⟨-, t, ht, rfl⟩ := wait_eq_some h
  exact turnsLeft_timer (List.min?_mem ht)

theorem turnsLeft_lt {choice : Choice} (h : m.step choice = some m') :
    m'.turnsLeft < m.turnsLeft := by
  cases choice with
  | work i => exact turnsLeft_work h
  | drain => exact turnsLeft_drain h
  | stop => exact turnsLeft_stop h
  | wait => exact turnsLeft_wait h

theorem total_le_weight (now : Nat) : ∀ ws : List Worker,
    Worker.total (fun w => 2 * w.weight + w.toWake now) ws ≤
      2 * ws.foldr (fun w n => w.weight + n) 0 + ws.length
  | [] => Nat.le_refl _
  | w :: ws => by
    have ih := total_le_weight now ws
    have := w.toWake_le_one now
    simp only [Worker.total, List.foldr_cons, List.length_cons] at ih ⊢
    omega

/-- The fuel of a machine is enough. -/
theorem turnsLeft_le_fuel (m : Machine) : m.turnsLeft ≤ m.fuel := by
  have hw := total_le_weight m.now m.workers
  have hd : ahead m.now m.deadline ≤ 1 := by unfold ahead; split <;> omega
  have hs : ahead m.now m.hardStop ≤ 1 := by unfold ahead; split <;> omega
  have hc := Bool.toNat_le (!m.sink.isClosed)
  simp only [turnsLeft, fuel, weight]
  omega

/-! ## The canonical order -/

theorem step_of_next (h : m.next = some m') : ∃ choice, m.step choice = some m' := by
  rcases Option.or_eq_some_iff.1 h with h | ⟨-, h⟩
  · obtain ⟨i, -, hi⟩ := List.exists_of_findSome?_eq_some h
    exact ⟨.work i, hi⟩
  · rcases Option.or_eq_some_iff.1 h with h | ⟨-, h⟩
    · exact ⟨.drain, h⟩
    · rcases Option.or_eq_some_iff.1 h with h | ⟨-, h⟩
      · exact ⟨.stop, h⟩
      · exact ⟨.wait, h⟩

theorem settled_of_next (h : m.next = none) : m.Settled := by
  simp only [next, Option.or_eq_none_iff, List.findSome?_eq_none_iff, List.mem_range] at h
  obtain ⟨hwork, hdrain, hstop, hwait⟩ := h
  intro choice
  cases choice with
  | work i =>
    by_cases hi : i < m.workers.length
    · exact hwork i hi
    · simp [step, work, List.getElem?_eq_none (Nat.le_of_not_lt hi)]
  | drain => exact hdrain
  | stop => exact hstop
  | wait => exact hwait

theorem runFor_spec : ∀ (n : Nat) (m : Machine), m.turnsLeft ≤ n →
    Reaches m (runFor n m) ∧ (runFor n m).Settled
  | 0, m, h => by
    refine ⟨.refl, settled_of_next ?_⟩
    simp only [runFor]
    cases hn : m.next with
    | none => rfl
    | some m' =>
      obtain ⟨choice, hs⟩ := step_of_next hn
      have := turnsLeft_lt hs
      omega
  | n + 1, m, h => by
    simp only [runFor]
    split
    · rename_i m' hn
      obtain ⟨choice, hs⟩ := step_of_next hn
      have hlt := turnsLeft_lt hs
      obtain ⟨hr, hset⟩ := runFor_spec n m' (by omega)
      exact ⟨(Reaches.move choice .refl hs).trans hr, hset⟩
    · rename_i hn
      exact ⟨.refl, settled_of_next hn⟩

/-- A way to run every scrape to its end. -/
structure Schedule where
  run : Machine → Machine
  reaches : ∀ m, Reaches m (run m)
  settled : ∀ m, (run m).Settled
  /-- Of scrapers that are dropped once they were spawned, those that have begun by then. Nothing of
  what they say arrives. -/
  begun : List String → List String
  begun_sublist : ∀ names, (begun names).Sublist names

/-- The first worker that can move does, else the reader, else time. All on one thread: nobody has
begun before the workers are dropped. -/
def Schedule.inOrder : Schedule where
  run := Machine.run
  reaches m := (runFor_spec m.fuel m m.turnsLeft_le_fuel).1
  settled m := (runFor_spec m.fuel m m.turnsLeft_le_fuel).2
  begun _ := []
  begun_sublist names := names.nil_sublist

/-- Every end of a scrape is the end under some schedule. -/
theorem Schedule.through (h : Reaches m m') (hs : m'.Settled) :
    ∃ schedule : Schedule, schedule.run m = m' := by
  classical
  let run := fun x => if x = m then m' else Machine.run x
  have hself : run m = m' := if_pos rfl
  have hother : ∀ x, x ≠ m → run x = Schedule.inOrder.run x := fun x hx => if_neg hx
  have hreaches : ∀ x, Reaches x (run x) := by
    intro x
    by_cases hx : x = m
    · rw [hx, hself]
      exact h
    · rw [hother x hx]
      exact Schedule.inOrder.reaches x
  have hsettled : ∀ x, (run x).Settled := by
    intro x
    by_cases hx : x = m
    · rw [hx, hself]
      exact hs
    · rw [hother x hx]
      exact Schedule.inOrder.settled x
  exact ⟨{ Schedule.inOrder with run := run, reaches := hreaches, settled := hsettled }, hself⟩

end Machine
end MysqlMetrics
