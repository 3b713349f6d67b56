import MysqlMetrics.Proofs.Scrape.Account
/-!
# A scrape on a common clock

Where several scrapes share a clock, time may move to a moment at which only another scrape has
something to do. A machine over which time passes so is idle (`Machine.Idles`): nobody in it can
move, before and after, and its next timer is still to come. So it goes on as if the clock had
waited for it, and what it comes to on a common clock it comes to alone (`Machine.Shares`).
-/
namespace MysqlMetrics.Machine

variable {start deadline t : Nat} {scripts : List (String × Script)} {m₀ m m' : Machine}
  {log : List (Nat × Sample)} {choice : Choice}

/-! ## Time passes over a machine -/

/-- A machine whose clock stands, or was moved on while nobody could move, to a moment before the
next timer. -/
inductive Idles (m₀ : Machine) : Machine → Prop
  | still : Idles m₀ m₀
  | passed {t : Nat} (hc : m₀.canMove = false) (hd : m₀.isDone = false) (hn : m₀.now ≤ t)
    (hall : ∀ τ ∈ m₀.timers, t < τ) : Idles m₀ { m₀ with now := t }

theorem mem_timers_of_asleep {w : Worker} {wake : Nat} {acts : List Act} (hw : w ∈ m.workers)
    (hp : w.phase = .asleep wake acts) (hlt : m.now < wake) : wake ∈ m.timers := by
  refine List.mem_filter.2 ⟨List.mem_append_right _ ?_, by simpa using hlt⟩
  exact List.mem_filterMap.2 ⟨w, hw, by simp [Worker.wake?, hp]⟩

theorem deadline_mem_timers {w : Worker} (hw : w ∈ m.workers) (hf : w.isFinished = false)
    (hlt : m.now < m.deadline) : m.deadline ∈ m.timers := by
  have hall : ¬ m.workers.all Worker.isFinished = true := fun h => by
    rw [List.all_eq_true.1 h w hw] at hf
    cases hf
  simp [timers, hall, hlt]

/-- Only waiting takes time. -/
theorem now_of_step (h : m.step choice = some m') (hw : choice ≠ .wait) : m'.now = m.now := by
  cases choice with
  | work i =>
    obtain ⟨w, moved, -, -, rfl⟩ := work_eq_some h
    rfl
  | drain =>
    obtain ⟨-, s, rest, -, rfl⟩ := drain_eq_some h
    rfl
  | stop =>
    obtain ⟨-, -, rfl⟩ := stop_eq_some h
    rfl
  | wait => exact absurd rfl hw

/-- Nobody can move who has finished, or who sleeps until later with the deadline to come. -/
theorem step_eq_none_of_still (hq : m.sink.queue = []) (hd : m.now < m.hardStop)
    (hall : ∀ w ∈ m.workers, w.isFinished = true ∨
      ∃ wake acts, w.phase = .asleep wake acts ∧ m.now < wake ∧ m.now < m.deadline)
    (hw : choice ≠ .wait) : m.step choice = none := by
  cases choice with
  | wait => exact absurd rfl hw
  | drain =>
    show m.drain = none
    unfold drain Sink.receive
    rw [hq]
    cases m.sink.reader <;> rfl
  | stop =>
    have hlate : ¬ m.hardStop ≤ m.now := by omega
    simp [step, stop, hlate]
  | work i =>
    show m.work i = none
    unfold work
    cases hi : m.workers[i]? with
    | none => rfl
    | some w =>
      have hstuck : w.step m.start m.now m.deadline m.sink = none := by
        rcases hall w (List.mem_of_getElem? hi) with hf | ⟨wake, acts, hp, hlt, hdue⟩
        · unfold Worker.isFinished at hf
          split at hf
          · rename_i o hp
            simp [Worker.step, hp]
          · cases hf
        · have hwake : ¬ wake ≤ m.now := by omega
          have hcut : ¬ m.deadline ≤ m.now := by omega
          simp [Worker.step, hp, hwake, Worker.cutOff?, hcut]
      simp [hstuck]

section Idles

variable (a : Account start deadline scripts m₀ log)

include a

/-- Who cannot move and is not done waits for the deadline, if for nothing before it. -/
theorem deadline_ahead (hc : m₀.canMove = false) (hd : m₀.isDone = false) :
    m₀.deadline ∈ m₀.timers := by
  obtain ⟨hq, hstill⟩ := still_of_not_canMove a hc
  obtain ⟨w, hwm, hf⟩ : ∃ w ∈ m₀.workers, w.isFinished = false := by
    simpa [isDone, hq] using hd
  rcases hstill w hwm with hf' | ⟨_, _, _, _, hlt⟩
  · rw [hf'] at hf
    cases hf
  · exact deadline_mem_timers hwm hf (a.due ▸ hlt)

/-- Who could not move before the next timer can still not. -/
theorem step_passed (hc : m₀.canMove = false) (hd : m₀.isDone = false)
    (hall : ∀ τ ∈ m₀.timers, t < τ) (hw : choice ≠ .wait) :
    ({ m₀ with now := t } : Machine).step choice = none := by
  obtain ⟨hq, hstill⟩ := still_of_not_canMove a hc
  have hdue : t < m₀.deadline := hall _ (deadline_ahead a hc hd)
  have hstop : t < m₀.hardStop := Nat.lt_of_lt_of_le hdue (Nat.le_add_right _ _)
  refine step_eq_none_of_still hq hstop (fun v hv => ?_) hw
  rcases hstill v hv with hf' | ⟨wake, acts, hp, hlt, -⟩
  · exact .inl hf'
  · exact .inr ⟨wake, acts, hp, hall _ (mem_timers_of_asleep hv hp hlt), hdue⟩

/-- A machine that moves has not been idle. -/
theorem Idles.step (h : Idles m₀ m) (hw : choice ≠ .wait) (hs : m.step choice = some m') :
    m₀ = m := by
  cases h with
  | still => rfl
  | passed hc hd hn hall =>
    rw [step_passed a hc hd hall hw] at hs
    cases hs

omit a in
theorem Idles.isDone (h : Idles m₀ m) (hd : m.isDone = true) : m₀ = m := by
  cases h with
  | still => rfl
  | passed hc hd' hn hall =>
    have hd : m₀.isDone = true := hd
    rw [hd'] at hd
    cases hd

omit a in
theorem timers_passed (hn : m₀.now ≤ t) (hall : ∀ τ ∈ m₀.timers, t < τ) :
    ({ m₀ with now := t } : Machine).timers = m₀.timers := by
  refine List.filter_congr fun τ hτ => ?_
  have hiff : t < τ ↔ m₀.now < τ := by
    constructor
    · intro hlt
      omega
    · intro hlt
      exact hall τ (List.mem_filter.2 ⟨hτ, by simpa using hlt⟩)
  simp [hiff]

omit a in
/-- Time moves to a moment that is not behind the next timer: it passes over the machine, or the
machine has waited for it. -/
theorem Idles.wait (h : Idles m₀ m) (hc : m.canMove = false) (hd : m.isDone = false)
    (hn : m.now ≤ t) (hall : ∀ τ ∈ m.timers, t ≤ τ) :
    ∃ m₁, (m₁ = m₀ ∨ m₀.wait = some m₁) ∧ Idles m₁ { m with now := t } := by
  have hidle : m₀.canMove = false ∧ m₀.isDone = false ∧ m₀.now ≤ t ∧ m.timers = m₀.timers ∧
      ({ m with now := t } : Machine) = { m₀ with now := t } := by
    cases h with
    | still => exact ⟨hc, hd, hn, rfl, rfl⟩
    | passed hc' hd' hn' hall' =>
      exact ⟨hc', hd', Nat.le_trans hn' hn, timers_passed hn' hall', rfl⟩
  obtain ⟨hc', hd', hn', htimers, hsame⟩ := hidle
  rw [htimers] at hall
  rw [hsame]
  by_cases ht : t ∈ m₀.timers
  · refine ⟨{ m₀ with now := t }, .inr ?_, .still⟩
    have hmin : m₀.timers.min? = some t := List.min?_eq_some_iff.2 ⟨ht, hall⟩
    simp [Machine.wait, hc', hmin]
  · refine ⟨m₀, .inl rfl, .passed hc' hd' hn' fun τ hτ => ?_⟩
    have hle := hall τ hτ
    have hne : t ≠ τ := fun he => ht (he ▸ hτ)
    omega

end Idles

/-! ## A machine on a common clock -/

/-- What a machine comes to on a common clock is what it comes to alone, but for the clock. -/
def Shares (first m : Machine) : Prop := ∃ m₀, Reaches first m₀ ∧ Idles m₀ m

section Shares

variable (hs : start ≤ deadline)

theorem Shares.refl (first : Machine) : Shares first first := ⟨first, .refl, .still⟩

theorem Shares.wait {first : Machine} (h : Shares first m) (hc : m.canMove = false)
    (hd : m.isDone = false) (hn : m.now ≤ t) (hall : ∀ τ ∈ m.timers, t ≤ τ) :
    Shares first { m with now := t } := by
  obtain ⟨m₀, hreach, hidle⟩ := h
  obtain ⟨m₁, rfl | hwait, hidle'⟩ := hidle.wait hc hd hn hall
  · exact ⟨m₁, hreach, hidle'⟩
  · exact ⟨m₁, .move .wait hreach hwait, hidle'⟩

include hs

theorem Shares.step (h : Shares (Machine.new start deadline scripts) m) (hw : choice ≠ .wait)
    (hm : m.step choice = some m') : Shares (Machine.new start deadline scripts) m' := by
  obtain ⟨m₀, hreach, hidle⟩ := h
  obtain ⟨log, a⟩ := account_of_reaches hreach (account_new hs)
  obtain rfl := hidle.step a hw hm
  exact ⟨m', .move choice hreach hm, .still⟩

/-- A machine that is done has come there alone as well, and nobody can go on. -/
theorem Shares.settled (h : Shares (Machine.new start deadline scripts) m) (hd : m.isDone = true) :
    Reaches (Machine.new start deadline scripts) m ∧ m.Settled := by
  obtain ⟨m₀, hreach, hidle⟩ := h
  obtain rfl := hidle.isDone hd
  obtain ⟨log, a⟩ := account_of_reaches hreach (account_new hs)
  refine ⟨hreach, fun choice => ?_⟩
  simp only [isDone, Bool.and_eq_true, List.all_eq_true, List.isEmpty_iff] at hd
  obtain ⟨hfin, hq⟩ := hd
  cases choice with
  | wait =>
    have hnone : m₀.timers.min? = none := by
      rw [timers_of_finished hfin]
      rfl
    show m₀.wait = none
    simp [Machine.wait, hnone]
  | _ =>
    have hstop : m₀.now < m₀.hardStop := by
      have htimely := a.timely
      simp only [hardStop, graceMillis, a.due]
      omega
    exact step_eq_none_of_still hq hstop (fun w hw => .inl (hfin w hw)) (by simp)

/-- Who cannot move and is not done has a timer. -/
theorem Shares.timers_ne_nil (h : Shares (Machine.new start deadline scripts) m)
    (hc : m.canMove = false) (hd : m.isDone = false) : m.timers ≠ [] := by
  obtain ⟨m₀, hreach, hidle⟩ := h
  obtain ⟨log, a⟩ := account_of_reaches hreach (account_new hs)
  have hmem : m₀.deadline ∈ m.timers := by
    cases hidle with
    | still => exact deadline_ahead a hc hd
    | passed hc' hd' hn hall =>
      rw [timers_passed hn hall]
      exact deadline_ahead a hc' hd'
  exact List.ne_nil_of_mem hmem

end Shares
end MysqlMetrics.Machine
