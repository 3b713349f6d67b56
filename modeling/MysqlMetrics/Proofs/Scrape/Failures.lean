import MysqlMetrics.Proofs.Scrape.Invocation
/-!
# Who failed

A machine notes the name of a worker when its scrape is found to have failed, and of a worker that
is cut off, but not of one that panicked. Every name is noted once: in whatever order the workers
move, those noted are those whose outcome is of that kind (`Machine.failures_of_reaches`,
`Session.mem_failures`).
-/
namespace MysqlMetrics

/-- Is the outcome noted as a failure? -/
def Outcome.isNoted (o : Outcome) : Bool := o == .failed || o == .cutOff

namespace Worker

variable {w : Worker} {start now deadline : Nat} {k : Sink} {moved : Moved}

/-- Has the worker come to an outcome that is noted? -/
def hasErred (w : Worker) : Bool :=
  match w.phase with
  | .reporting o _ | .finished o => o.isNoted
  | _ => false

/-- A worker errs once, and that is when it is found to have failed. -/
theorem Turn.erred (h : w.Turn start now deadline k moved) :
    moved.worker.hasErred = (w.hasErred || moved.failed) ∧
      (moved.failed = true → w.hasErred = false) := by
  cases h with
  | complete hp _ | fail hp _ | refuse hp _ | crowdedOut hp _ | expire hp _ _ =>
    simp [hasErred, hp, report, Outcome.isNoted, Outcome.isOk]
  | panic hp _ | emit hp _ | sleep hp | wake hp _ => simp [hasErred, hp, Outcome.isNoted]
  | deliver hp _ | discard hp _ | finish hp => simp [hasErred, hp]

theorem hasErred_of_finished (h : w.isFinished = true) : w.hasErred = w.outcome.isNoted := by
  unfold isFinished at h
  split at h
  · rename_i o hp
    simp [hasErred, outcome, hp]
  · cases h

end Worker

namespace Machine

variable {m m' : Machine}

/-- The names of those who have erred. -/
def erring (m : Machine) : List String := (m.workers.filter Worker.hasErred).map (·.name)

theorem failures_work {i : Nat} (h : m.work i = some m') (hm : m.failures.Perm m.erring) :
    m'.failures.Perm m'.erring := by
  obtain ⟨w, moved, hw, ht, rfl⟩ := work_eq_some h
  obtain ⟨pre, post, hsplit, hset⟩ := exists_split_of_getElem? hw
  obtain ⟨herred, hfirst⟩ := ht.erred
  have hname := ht.name_eq
  unfold erring at hm ⊢
  rw [hsplit] at hm
  simp only [hset, List.filter_append, List.map_append, List.filter_cons] at hm ⊢
  cases hf : moved.failed with
  | false =>
    rw [hf, Bool.or_false] at herred
    rw [herred]
    cases he : w.hasErred <;> simp only [he, if_true, if_false, Bool.false_eq_true,
      List.map_cons, hname] at hm ⊢ <;> exact hm
  | true =>
    rw [hf, Bool.or_true] at herred
    simp only [herred, hfirst hf, if_true, if_false, Bool.false_eq_true, List.map_cons, hname]
      at hm ⊢
    exact (List.perm_append_singleton _ _).trans ((hm.cons _).trans List.perm_middle.symm)

theorem failures_step {choice : Choice} (h : m.step choice = some m')
    (hm : m.failures.Perm m.erring) : m'.failures.Perm m'.erring := by
  cases choice with
  | work i => exact failures_work h hm
  | drain =>
    obtain ⟨-, s, rest, -, rfl⟩ := drain_eq_some h
    exact hm
  | stop =>
    obtain ⟨-, -, rfl⟩ := stop_eq_some h
    exact hm
  | wait =>
    obtain ⟨-, t, -, rfl⟩ := wait_eq_some h
    exact hm

theorem erring_new (start deadline : Nat) (scripts : List (String × Script)) :
    (Machine.new start deadline scripts).erring = [] := by
  have hnone : ∀ p : String × Script, (Worker.ofScript p.1 p.2).hasErred = false := fun _ => rfl
  simp [erring, Machine.new, List.filter_map, Function.comp_def, hnone]

/-- Those noted are those who have erred, in any order of moves. -/
theorem failures_of_reaches {start deadline : Nat} {scripts : List (String × Script)}
    (h : Reaches (Machine.new start deadline scripts) m) : m.failures.Perm m.erring := by
  induction h with
  | refl =>
    rw [erring_new]
    exact List.Perm.refl _
  | move choice _ hs ih => exact failures_step hs ih

/-- Moves add to the failures at the end only. -/
theorem failures_isPrefix {choice : Choice} (h : m.step choice = some m') :
    m.failures <+: m'.failures := by
  cases choice with
  | work i =>
    obtain ⟨w, moved, -, -, rfl⟩ := work_eq_some h
    dsimp only
    split
    · exact List.prefix_append _ _
    · exact List.prefix_rfl
  | drain =>
    obtain ⟨-, s, rest, -, rfl⟩ := drain_eq_some h
    exact List.prefix_rfl
  | stop =>
    obtain ⟨-, -, rfl⟩ := stop_eq_some h
    exact List.prefix_rfl
  | wait =>
    obtain ⟨-, t, -, rfl⟩ := wait_eq_some h
    exact List.prefix_rfl

end Machine

namespace Session

variable {σ : Type} {e : Exporter} {c : Connector σ} {world : σ} {now : Nat} {r : ScrapeRequest}
  {allowed : Scraper → Prop} {name : String}

theorem isFinished_of_mem (u : Session e c world now r) : ∀ w ∈ u.final.workers, w.isFinished := by
  have hdone := u.isDone_final
  rw [Machine.isDone, Bool.and_eq_true, List.all_eq_true] at hdone
  exact hdone.1

/-- Nobody is noted twice. -/
theorem nodup_failures (hw : e.registry.WellFormed allowed) (u : Session e c world now r) :
    u.final.failures.Nodup := by
  have hnames : (u.final.workers.map (·.name)).Nodup := by
    have hn := names_nodup hw u
    rw [← outcomes_names] at hn
    simpa [Machine.outcomes, Function.comp_def] using hn
  rw [(Machine.failures_of_reaches u.final_reached).nodup_iff]
  exact (List.filter_sublist.map _).nodup hnames

/-- Those noted are those that were found to have failed or were cut off. -/
theorem mem_failures (u : Session e c world now r) :
    name ∈ u.final.failures ↔ ∃ o, (name, o) ∈ u.final.outcomes ∧ o.isNoted = true := by
  rw [(Machine.failures_of_reaches u.final_reached).mem_iff]
  simp only [Machine.erring, Machine.outcomes, List.mem_map, List.mem_filter]
  constructor
  · rintro ⟨w, ⟨hw, he⟩, rfl⟩
    rw [Worker.hasErred_of_finished (u.isFinished_of_mem w hw)] at he
    exact ⟨w.outcome, ⟨w, hw, rfl⟩, he⟩
  · rintro ⟨o, ⟨w, hw, hp⟩, ho⟩
    cases hp
    rw [← Worker.hasErred_of_finished (u.isFinished_of_mem w hw)] at ho
    exact ⟨w, ⟨hw, ho⟩, rfl⟩

/-- A scraper comes out in one way. -/
theorem outcome_unique (hw : e.registry.WellFormed allowed) (u : Session e c world now r)
    {o o' : Outcome} (h : (name, o) ∈ u.final.outcomes) (h' : (name, o') ∈ u.final.outcomes) :
    o = o' := by
  have hn : (u.final.outcomes.map (·.1)).Nodup := by
    rw [outcomes_names]
    exact names_nodup hw u
  exact congrArg Prod.snd (List.inj_on_of_nodup_map hn h h' rfl)

/-- A run has not failed if every script came to its own end in time, and that end is good. -/
theorem failed_eq_false (hw : e.registry.WellFormed allowed) (u : Session e c world now r) :
    u.final.failed = false ↔ ∀ name script, (name, script) ∈ u.scripts →
      ∃ out elapsed, (name, Outcome.ok) ∈ u.final.outcomes ∧
        Script.Ended u.limit script out .ok elapsed := by
  obtain ⟨log, hl⟩ := u.exists_log
  have hok : u.final.failed = false ↔ ∀ p ∈ u.final.outcomes, p.2 = .ok := by
    simp [Machine.failed, Machine.outcomes, Outcome.isOk]
  rw [hok]
  constructor
  · intro h name script hs
    obtain ⟨i, hi⟩ := List.mem_iff_getElem?.1 hs
    obtain ⟨o, out, elapsed, ho, he, -⟩ := hl.sent i name script hi
    have hmem := List.mem_of_getElem? ho
    obtain rfl : o = .ok := h _ hmem
    exact ⟨out, elapsed, hmem, he⟩
  · rintro h ⟨name, o⟩ hp
    have hname : name ∈ u.scripts.map (·.1) := by
      rw [← outcomes_names]
      exact List.mem_map_of_mem hp
    obtain ⟨⟨name', script⟩, hs, rfl⟩ := List.mem_map.1 hname
    obtain ⟨out, elapsed, ho, -⟩ := h _ _ hs
    exact outcome_unique hw u hp ho

end Session
end MysqlMetrics
