import Mathlib.Data.List.Nodup
import MysqlMetrics.Proofs.Http.Credentials
import MysqlMetrics.Proofs.Http.Telemetry
import MysqlMetrics.Proofs.Lists
/-!
# Traffic before a guard

Whatever order requests take turns in, those that are entitled are served and all others are turned
away, and only those that are served leave a trace (`Traffic.judged`). It rests on three things: the
guard remembers only what it has confirmed, a check is that of the request which waits for it, and
what the handlers have made of the service is what they make one after the other of its start.
-/
namespace MysqlMetrics

open SortedTable

/-! ## Moves -/

namespace Visit

variable {σ : Type}

/-- Does the request wait before the guard? -/
def Waits (v : Visit) : Prop :=
  v.progress = .arrived ∨ ∃ k, v.progress = .queued k ∨ v.progress = .checking k

/-- What a visit may do, how far that takes it, and what it leaves. -/
inductive Goes (v : Visit) (s : Service σ) (isFree : Bool) (st : Serving σ) :
    Move → Progress × Serving σ → Prop
  | enter (hp : v.progress = .arrived) (hg : st.guard = none) :
    Goes v s isFree st .look (.admitted, st)
  | pass {g : Guard} (hp : v.progress = .arrived) (hg : st.guard = some g)
    (hl : g.look v.request = .pass) : Goes v s isFree st .look (.admitted, st)
  | refuse {g : Guard} (hp : v.progress = .arrived) (hg : st.guard = some g)
    (hl : g.look v.request = .refuse) :
    Goes v s isFree st .look (.turnedAway (v.refusal s g), st)
  | queue {g : Guard} {k : Guard.Check} (hp : v.progress = .arrived) (hg : st.guard = some g)
    (hl : g.look v.request = .check k) : Goes v s isFree st .look (.queued k, st)
  | lock {k : Guard.Check} (hp : v.progress = .queued k) (hf : isFree = true) :
    Goes v s isFree st .lock (.checking k, st)
  | confirm {g : Guard} {k : Guard.Check} (hp : v.progress = .checking k) (hg : st.guard = some g)
    (hc : g.confirms k = true) :
    Goes v s isFree st .check (.admitted, { st with guard := some (g.remember k.presented) })
  | reject {g : Guard} {k : Guard.Check} (hp : v.progress = .checking k) (hg : st.guard = some g)
    (hc : g.confirms k = false) : Goes v s isFree st .check (.turnedAway (v.refusal s g), st)
  | handle (hp : v.progress = .admitted) :
    Goes v s isFree st .handle
      (.served (v.dress s st.guard (s.handle v.request (v.destination s) st).1),
        (s.handle v.request (v.destination s) st).2)
  | leave (hp : v.Waits) : Goes v s isFree st .leave (.abandoned, st)

variable {v : Visit} {s : Service σ} {isFree : Bool} {st : Serving σ} {move : Move}
  {out : Progress × Serving σ}

theorem goes_of_step (h : v.step s isFree st move = some out) : v.Goes s isFree st move out := by
  cases move with
  | look =>
    simp only [step] at h
    split at h
    · rename_i hp hg
      cases h
      exact .enter hp hg
    · rename_i g hp hg
      split at h
      · rename_i hl
        cases h
        exact .pass hp hg hl
      · rename_i hl
        cases h
        exact .refuse hp hg hl
      · rename_i hl
        cases h
        exact .queue hp hg hl
    · cases h
  | lock =>
    simp only [step] at h
    split at h
    · rename_i hp
      split at h
      · rename_i hf
        cases h
        exact .lock hp hf
      · cases h
    · cases h
  | check =>
    simp only [step] at h
    split at h
    · rename_i hp hg
      split at h
      · rename_i hc
        cases h
        exact .confirm hp hg hc
      · rename_i hc
        cases h
        exact .reject hp hg (by simpa using hc)
    · cases h
  | handle =>
    simp only [step] at h
    split at h
    · rename_i hp
      cases h
      exact .handle hp
    · cases h
  | leave =>
    simp only [step] at h
    split at h
    · rename_i hp
      cases h
      exact .leave (.inl hp)
    · rename_i k hp
      cases h
      exact .leave (.inr ⟨k, .inl hp⟩)
    · rename_i k hp
      cases h
      exact .leave (.inr ⟨k, .inr hp⟩)
    · cases h

end Visit

namespace Service

variable {σ : Type}

/-- Handlers neither look at the guard nor change it. -/
theorem handle_withGuard (s : Service σ) (r : Request) (d : Destination) (st : Serving σ)
    (g : Option Guard) : s.handle r d { st with guard := g } =
      ((s.handle r d st).1, { (s.handle r d st).2 with guard := g }) := by
  cases d with
  | handler h =>
    cases h with
    | metrics => simp only [handle, metrics]
    | health => simp only [handle, health]
    | landing => simp only [handle, landing]
  | wrongMethod allowed => simp only [handle]
  | nowhere => simp only [handle]

theorem handle_guard (s : Service σ) (r : Request) (d : Destination) (st : Serving σ) :
    (s.handle r d st).2.guard = st.guard := by
  have h := handle_withGuard s r d st st.guard
  exact congrArg (fun out => out.2.guard) h

end Service

/-! ## One request alone -/

namespace Service

variable {σ : Type}

/-- A response as a visit is sent it. -/
theorem respond_eq (s : Service σ) (v : Visit) (st : Serving σ) :
    s.respond v.freshId v.request st =
      match st.guard with
      | none =>
        (v.dress s none (s.handle v.request (v.destination s) st).1,
          (s.handle v.request (v.destination s) st).2)
      | some g =>
        match g.authorize v.request with
        | (true, g) =>
          (v.dress s (some g) (s.handle v.request (v.destination s) { st with guard := some g }).1,
            (s.handle v.request (v.destination s) { st with guard := some g }).2)
        | (false, g) => (v.refusal s g, { st with guard := some g }) := by
  have hd : s.router.route v.request.method v.request.path = v.destination s := rfl
  unfold respond guarded
  dsimp only
  rw [hd]
  cases st.guard with
  | none =>
    dsimp only
    generalize s.handle v.request (v.destination s) st = out
    obtain ⟨reply, later⟩ := out
    cases reply <;> rfl
  | some g =>
    dsimp only
    generalize g.authorize v.request = verdict
    obtain ⟨allowed, g'⟩ := verdict
    cases allowed with
    | false => rfl
    | true =>
      dsimp only
      rw [if_pos rfl]
      generalize s.handle v.request (v.destination s) { st with guard := some g' } = out
      obtain ⟨reply, later⟩ := out
      cases reply <;> rfl

end Service

namespace Traffic

variable {σ : Type} {s : Service σ} {t : Traffic σ} {i : Nat} {v : Visit}

/-- The traffic after a visit has come so far. -/
def after (t : Traffic σ) (i : Nat) (v : Visit) (out : Progress × Serving σ) : Traffic σ :=
  ⟨out.2, t.visits.set i { v with progress := out.1 }⟩

theorem step_after (hi : i < t.visits.length) {p : Progress} {st : Serving σ} {move : Visit.Move}
    {out : Progress × Serving σ} {isFree : Bool} (hf : (t.after i v (p, st)).isFree = isFree)
    (h : Visit.step { v with progress := p } s isFree st move = some out) :
    (t.after i v (p, st)).step s (.visit i move) = some (t.after i v out) := by
  have hv : (t.after i v (p, st)).visits[i]? = some { v with progress := p } :=
    List.getElem?_set_self hi
  rw [Traffic.step, hv]
  simp only [Option.bind_some, hf]
  rw [show (t.after i v (p, st)).serving = st from rfl, h]
  simp [after]

theorem isFree_after (hfree : t.isFree = true) {p : Progress} {st : Serving σ}
    (hp : Visit.isChecking { v with progress := p } = false) :
    (t.after i v (p, st)).isFree = true := by
  refine List.all_eq_true.2 fun w hw => ?_
  rcases List.mem_or_eq_of_mem_set hw with hw | rfl
  · exact List.all_eq_true.1 hfree w hw
  · rw [hp]
    rfl

/-- Where nobody holds the lock, a request that goes on alone comes to its response. -/
theorem reaches_respond (hv : t.visits[i]? = some v) (hp : v.progress = .arrived)
    (hfree : t.isFree = true) :
    ∃ progress, Reaches s t (t.after i v (progress, (s.respond v.freshId v.request t.serving).2)) ∧
      (progress = .served (s.respond v.freshId v.request t.serving).1 ∨
        progress = .turnedAway (s.respond v.freshId v.request t.serving).1) := by
  have hi : i < t.visits.length := (List.getElem?_eq_some_iff.1 hv).1
  have hstart : t = t.after i v (.arrived, t.serving) := by
    have hself : { v with progress := .arrived } = v := by rw [← hp]
    rw [after, hself, set_eq_self hv]
  have hlook : ∀ out, Visit.step { v with progress := .arrived } s true t.serving .look = some out →
      Reaches s t (t.after i v out) := by
    intro out h
    have hstep := step_after hi (isFree_after hfree rfl) h
    rw [← hstart] at hstep
    exact .turn _ .refl hstep
  -- whoever is admitted is served in one more turn
  have hserve : ∀ st, Reaches s t (t.after i v (.admitted, st)) → Reaches s t (t.after i v
      (.served (v.dress s st.guard (s.handle v.request (v.destination s) st).1),
        (s.handle v.request (v.destination s) st).2)) :=
    fun st h => h.turn (.visit i .handle) (step_after hi rfl rfl)
  rw [Service.respond_eq]
  cases hg : t.serving.guard with
  | none =>
    have hadmit := hserve t.serving (hlook (.admitted, t.serving) (by simp [Visit.step, hg]))
    rw [hg] at hadmit
    exact ⟨_, hadmit, .inl rfl⟩
  | some g =>
    have hst : { t.serving with guard := some g } = t.serving := by rw [← hg]
    dsimp only
    rw [Guard.authorize_eq]
    cases hl : g.look v.request with
    | pass =>
      have hadmit := hserve t.serving (hlook (.admitted, t.serving) (by simp [Visit.step, hg, hl]))
      rw [hg] at hadmit
      dsimp only
      rw [hst]
      exact ⟨_, hadmit, .inl rfl⟩
    | refuse =>
      have hrefuse := hlook (.turnedAway (v.refusal s g), t.serving) (by
        simp only [Visit.step, hg, hl]
        rfl)
      dsimp only
      rw [hst]
      exact ⟨_, hrefuse, .inr rfl⟩
    | check k =>
      have hqueue := hlook (.queued k, t.serving) (by simp [Visit.step, hg, hl])
      have hlock : Reaches s t (t.after i v (.checking k, t.serving)) :=
        hqueue.turn (.visit i .lock) (step_after hi (isFree_after hfree rfl) (by simp [Visit.step]))
      dsimp only
      by_cases hc : g.confirms k = true
      · have hadmit := hserve _ (hlock.turn (.visit i .check)
          (step_after hi rfl (by simp only [Visit.step, hg, hc, if_true]; rfl)))
        rw [if_pos hc]
        exact ⟨_, hadmit, .inl rfl⟩
      · have hreject := hlock.turn (.visit i .check)
          (step_after hi rfl (by simp only [Visit.step, hg, hc]; rfl))
        rw [if_neg hc]
        dsimp only
        rw [hst]
        exact ⟨_, hreject, .inr rfl⟩

end Traffic

/-! ## What is true of a visit -/

/-- A reply, if it is a response, carries the headers of the web file. -/
def Reply.Carries (c : WebConfig) (reply : Reply) : Prop :=
  ∀ resp, reply = .response resp → c.CarriedBy resp

/-- The reply to a request that may not pass, with its challenge and the headers of the web file. -/
def Reply.Challenges (c : WebConfig) (reply : Reply) : Prop :=
  ∃ resp, reply = .response resp ∧ resp.status = 401 ∧ resp.Has "www-authenticate" "Basic" ∧
    c.CarriedBy resp

namespace Visit

variable {σ : Type} {v : Visit} {s : Service σ} {isFree : Bool} {st : Serving σ} {move : Move}
  {out : Progress × Serving σ} {c : WebConfig} {g : Guard}

/-- As far as a visit has come, it has come so rightly. -/
def Sound (c : WebConfig) (v : Visit) : Prop :=
  match v.progress with
  | .arrived | .abandoned => True
  | .queued k | .checking k => k.Fits c.users v.request
  | .admitted => Guard.Entitled c.users v.request
  | .served reply => Guard.Entitled c.users v.request ∧ reply.Carries c
  | .turnedAway reply => ¬ Guard.Entitled c.users v.request ∧ reply.Challenges c

theorem dress_of (hg : g.Of c) (v : Visit) (s : Service σ) (reply : Reply) :
    v.dress s (some g) reply = v.dress s (some (.new c)) reply := by
  cases reply with
  | panicked m => rfl
  | response resp => simp only [dress, Guard.addHeaders, hg.headers, Guard.new]

theorem carries_dress (hg : g.Of c) (v : Visit) (s : Service σ) (reply : Reply) :
    (v.dress s (some g) reply).Carries c := by
  intro resp h
  cases reply with
  | panicked m => cases h
  | response resp' =>
    cases h
    exact WebConfig.carriedBy_complete hg.headers v.request (v.destination s) v.freshId resp'

theorem challenges_refusal (hc : c.check = .ok c) (hg : g.Of c) (v : Visit) (s : Service σ) :
    (v.refusal s g).Challenges c := by
  refine ⟨_, rfl, ?_, WebConfig.has_challenge hc hg.headers v.request (v.destination s) v.freshId,
    WebConfig.carriedBy_complete hg.headers v.request (v.destination s) v.freshId _⟩
  rw [(Service.complete_spec _ _ _).1, (Service.addHeaders_spec _ _).1]
  rfl

/-- **A step.** A guard stays one of its web file, and a visit goes on rightly. -/
theorem Goes.sound (hc : c.check = .ok c) (hu : c.hasUsers = true) (hg : st.guard = some g)
    (hof : g.Of c) (hv : v.Sound c) (h : v.Goes s isFree st move out) :
    (∃ g', out.2.guard = some g' ∧ g'.Of c) ∧ Sound c { v with progress := out.1 } := by
  -- the guard that a move finds is the one that is there
  have hfound : ∀ {g'}, st.guard = some g' → g'.Of c := fun hg' =>
    Option.some.inj (hg.symm.trans hg') ▸ hof
  have hlook : ∀ {g' verdict}, st.guard = some g' → g'.look v.request = verdict →
      verdict.Right c v.request :=
        fun hg' hl => hl ▸ Guard.look_spec (hfound hg') hu (Guard.looks _ _)
  unfold Sound at hv
  cases h with
  | enter _ hn => rw [hg] at hn; cases hn
  | pass _ hg' hl => exact ⟨⟨_, hg, hof⟩, hlook hg' hl⟩
  | refuse _ hg' hl => exact ⟨⟨_, hg, hof⟩, hlook hg' hl, challenges_refusal hc (hfound hg') v s⟩
  | queue _ hg' hl => exact ⟨⟨_, hg, hof⟩, hlook hg' hl⟩
  | lock hp _ =>
    rw [hp] at hv
    exact ⟨⟨_, hg, hof⟩, hv⟩
  | confirm hp hg' hok =>
    rw [hp] at hv
    exact ⟨⟨_, rfl, (hfound hg').remember hv hok⟩, (Guard.confirms_iff (hfound hg') hv).1 hok⟩
  | reject hp hg' hok =>
    rw [hp] at hv
    refine ⟨⟨_, hg, hof⟩, fun he => ?_, challenges_refusal hc (hfound hg') v s⟩
    rw [(Guard.confirms_iff (hfound hg') hv).2 he] at hok
    cases hok
  | handle hp =>
    rw [hp] at hv
    refine ⟨⟨g, (Service.handle_guard _ _ _ _).trans hg, hof⟩, hv, ?_⟩
    rw [hg]
    exact carries_dress hof v s _
  | leave _ => exact ⟨⟨_, hg, hof⟩, trivial⟩

/-- A move that does not serve changes nothing but the guard. -/
theorem Goes.cases_handle (h : v.Goes s isFree st move out) :
    (v.progress = .admitted ∧ out =
      (.served (v.dress s st.guard (s.handle v.request (v.destination s) st).1),
        (s.handle v.request (v.destination s) st).2)) ∨
    (out.2 = { st with guard := out.2.guard } ∧ (∀ reply, v.progress ≠ .served reply) ∧
      ∀ reply, out.1 ≠ .served reply) := by
  cases h with
  | handle hp => exact .inl ⟨hp, rfl⟩
  | leave hw =>
    refine .inr ⟨rfl, fun reply hp => ?_, fun _ h => by cases h⟩
    rcases hw with h | ⟨k, h | h⟩ <;> rw [hp] at h <;> cases h
  | enter hp _ | pass hp _ _ | refuse hp _ _ | queue hp _ _ | lock hp _ | confirm hp _ _
  | reject hp _ _ =>
    refine .inr ⟨rfl, fun reply h => ?_, fun _ h => by cases h⟩
    rw [hp] at h
    cases h

end Visit

/-! ## What is true of all traffic -/

/-- What the handlers of some requests, by their numbers, make of a service one after the other,
with their replies, while time passes. -/
inductive Handled {σ : Type} (s : Service σ) (requests : List (Request × String))
    (start : Serving σ) : List (Nat × Reply) → Serving σ → Prop
  | start : Handled s requests start [] start
  | wait {log : List (Nat × Reply)} {st : Serving σ} (millis : Nat)
    (h : Handled s requests start log st) :
    Handled s requests start log { st with now := st.now + millis }
  | handle {log : List (Nat × Reply)} {st : Serving σ} {i : Nat} {r : Request} {freshId : String}
    (h : Handled s requests start log st) (hi : requests[i]? = some (r, freshId)) :
    Handled s requests start
      (log ++ [(i, (s.handle r (s.router.route r.method r.path) st).1)])
      (s.handle r (s.router.route r.method r.path) st).2

namespace Traffic

variable {σ : Type} {s : Service σ} {c : WebConfig} {start : Serving σ}
  {requests : List (Request × String)} {t t' : Traffic σ} {turn : Turn}

/-- What the traffic has made of the service, less what the guard remembers, was made by the visits
that were served, each once, and these were told what their handlers said. -/
structure Traced (s : Service σ) (c : WebConfig) (start : Serving σ)
    (requests : List (Request × String)) (t : Traffic σ) (log : List (Nat × Reply))
    (st : Serving σ) : Prop where
  handled : Handled s requests start log st
  serving : t.serving = { st with guard := t.serving.guard }
  once : (log.map (·.1)).Nodup
  known : ∀ p ∈ log, p.1 < t.visits.length
  served : ∀ (i : Nat) (v : Visit), t.visits[i]? = some v → ∀ told, v.progress = .served told ↔
    ∃ reply, (i, reply) ∈ log ∧ told = v.dress s (some (.new c)) reply

/-- The guard is one of the web file, the visits are those of the requests and as far as they have
come they have come rightly, and what was made of the service was made by those that were served. -/
structure Sound (s : Service σ) (c : WebConfig) (start : Serving σ)
    (requests : List (Request × String)) (t : Traffic σ) : Prop where
  guard : ∃ g, t.serving.guard = some g ∧ g.Of c
  asked : t.visits.map (fun v => (v.request, v.freshId)) = requests
  visits : ∀ v ∈ t.visits, v.Sound c
  traced : ∃ log st, Traced s c start requests t log st

theorem sound_new (hg : start.guard = some (.new c)) :
    Sound s c start requests (.new start requests) := by
  have harrived : ∀ v ∈ (Traffic.new start requests).visits, v.progress = .arrived := by
    intro v hv
    obtain ⟨p, -, rfl⟩ := List.mem_map.1 hv
    rfl
  refine ⟨⟨_, hg, Guard.of_new c⟩, ?_, fun v hv => ?_, [], start, .start, rfl, List.nodup_nil,
    (by simp), fun i v hv told => ?_⟩
  · simp [Traffic.new, Function.comp_def]
  · rw [Visit.Sound, harrived v hv]
    trivial
  · rw [harrived v (List.mem_of_getElem? hv)]
    simp

theorem Sound.request (ht : Sound s c start requests t) {i : Nat} {v : Visit}
    (hv : t.visits[i]? = some v) : requests[i]? = some (v.request, v.freshId) := by
  rw [← ht.asked, List.getElem?_map, hv]
  rfl

/-- A turn of a visit as a move that it may make. -/
theorem step_visit {i : Nat} {move : Visit.Move} (h : t.step s (.visit i move) = some t') :
    ∃ v out, t.visits[i]? = some v ∧ v.Goes s t.isFree t.serving move out ∧
      t' = ⟨out.2, t.visits.set i { v with progress := out.1 }⟩ := by
  obtain ⟨v, hv, h⟩ := Option.bind_eq_some_iff.1 h
  obtain ⟨out, ho, rfl⟩ := Option.map_eq_some_iff.1 h
  exact ⟨v, out, hv, Visit.goes_of_step ho, rfl⟩

variable {log : List (Nat × Reply)} {st : Serving σ} {g : Guard} {i : Nat} {v : Visit}

/-- A handler adds its number, which was not there before. -/
theorem Traced.handle (tr : Traced s c start requests t log st) (hg : t.serving.guard = some g)
    (hof : g.Of c) (hv : t.visits[i]? = some v) (hr : requests[i]? = some (v.request, v.freshId))
    (hp : v.progress = .admitted) {out : Progress × Serving σ}
    (hout : out =
      (.served (v.dress s t.serving.guard (s.handle v.request (v.destination s) t.serving).1),
        (s.handle v.request (v.destination s) t.serving).2)) :
    Traced s c start requests ⟨out.2, t.visits.set i { v with progress := out.1 }⟩
      (log ++ [(i, (s.handle v.request (v.destination s) st).1)])
      (s.handle v.request (v.destination s) st).2 := by
  have hi : i < t.visits.length := (List.getElem?_eq_some_iff.1 hv).1
  have hhandle : s.handle v.request (v.destination s) t.serving =
      ((s.handle v.request (v.destination s) st).1,
        { (s.handle v.request (v.destination s) st).2 with guard := t.serving.guard }) := by
    rw [← Service.handle_withGuard, ← tr.serving]
  have hnew : ∀ reply, (i, reply) ∉ log := by
    intro reply hm
    have := (tr.served i v hv _).2 ⟨reply, hm, rfl⟩
    rw [hp] at this
    cases this
  rw [hhandle] at hout
  subst hout
  refine ⟨tr.handled.handle hr, rfl, ?_, fun p hp' => ?_, fun j w hw told => ?_⟩
  · rw [List.map_append, List.nodup_append]
    refine ⟨tr.once, List.nodup_singleton _, fun j hj i' hi' he => ?_⟩
    obtain ⟨⟨j, reply⟩, hm, rfl⟩ := List.mem_map.1 hj
    have hi' : i' = i := List.mem_singleton.1 hi'
    have he : j = i := he.trans hi'
    exact hnew reply (he ▸ hm)
  · rw [List.length_set]
    rcases List.mem_append.1 hp' with hp' | hp'
    · exact tr.known p hp'
    · rw [List.mem_singleton.1 hp']
      exact hi
  · simp only [List.mem_append, List.mem_singleton, Prod.mk.injEq]
    rcases getElem?_set_cases hv hw with ⟨rfl, rfl⟩ | ⟨hne, hw⟩
    · rw [hg, Visit.dress_of hof]
      constructor
      · intro h
        cases h
        exact ⟨_, .inr ⟨rfl, rfl⟩, rfl⟩
      · rintro ⟨reply, hm | ⟨-, rfl⟩, rfl⟩
        · exact (hnew reply hm).elim
        · rfl
    · rw [tr.served j w hw told]
      simp [hne]

/-- Whatever else a visit does leaves no trace. -/
theorem Traced.still (tr : Traced s c start requests t log st) (hv : t.visits[i]? = some v)
    {out : Progress × Serving σ} (hst : out.2 = { t.serving with guard := out.2.guard })
    (hbefore : ∀ reply, v.progress ≠ .served reply) (hafter : ∀ reply, out.1 ≠ .served reply) :
    Traced s c start requests ⟨out.2, t.visits.set i { v with progress := out.1 }⟩ log st := by
  refine ⟨tr.handled, ?_, tr.once, fun p hp => ?_, fun j w hw told => ?_⟩
  · rw [hst, tr.serving]
  · rw [List.length_set]
    exact tr.known p hp
  · rcases getElem?_set_cases hv hw with ⟨rfl, rfl⟩ | ⟨-, hw⟩
    · refine iff_of_false (hafter told) ?_
      rintro ⟨reply, hm, -⟩
      exact hbefore _ ((tr.served _ v hv _).2 ⟨reply, hm, rfl⟩)
    · exact tr.served j w hw told

theorem Traced.wait (tr : Traced s c start requests t log st) (millis : Nat) :
    Traced s c start requests
      { t with serving := { t.serving with now := t.serving.now + millis } } log
      { st with now := st.now + millis } := by
  refine ⟨tr.handled.wait millis, ?_, tr.once, tr.known, tr.served⟩
  exact congrArg (fun x : Serving σ => { x with now := x.now + millis }) tr.serving

theorem Sound.step (hc : c.check = .ok c) (hu : c.hasUsers = true)
    (ht : Sound s c start requests t) (h : t.step s turn = some t') :
    Sound s c start requests t' := by
  obtain ⟨g, hg, hof⟩ := ht.guard
  obtain ⟨log, st, tr⟩ := ht.traced
  cases turn with
  | wait millis =>
    cases h
    exact ⟨⟨g, hg, hof⟩, ht.asked, ht.visits, _, _, tr.wait millis⟩
  | visit i move =>
    obtain ⟨v, out, hv, hgo, rfl⟩ := step_visit h
    obtain ⟨hguard, hsound⟩ := hgo.sound hc hu hg hof (ht.visits v (List.mem_of_getElem? hv))
    refine ⟨hguard, ?_, fun w hw => ?_, ?_⟩
    · rw [← ht.asked]
      exact map_set_eq hv rfl
    · rcases List.mem_or_eq_of_mem_set hw with hw | rfl
      · exact ht.visits w hw
      · exact hsound
    · rcases hgo.cases_handle with ⟨hp, rfl⟩ | ⟨hst, hbefore, hafter⟩
      · exact ⟨_, _, tr.handle hg hof hv (ht.request hv) hp rfl⟩
      · exact ⟨_, _, tr.still hv hst hbefore hafter⟩

/-- **A run.** What holds of all traffic holds however it goes on. -/
theorem sound_of_reaches (hc : c.check = .ok c) (hu : c.hasUsers = true)
    (ht : Sound s c start requests t) (h : Reaches s t t') : Sound s c start requests t' := by
  induction h with
  | refl => exact ht
  | turn _ _ hs ih => exact ih.step hc hu hs

end Traffic

/-! ## Nobody waits for ever -/

/-- The moves that a visit has before it at most. -/
def Visit.weight (v : Visit) : Nat :=
  match v.progress with
  | .arrived => 4
  | .queued _ => 3
  | .checking _ => 2
  | .admitted => 1
  | .served _ | .turnedAway _ | .abandoned => 0

section Progress

variable {σ : Type} {v : Visit} {s : Service σ} {isFree : Bool} {st : Serving σ} {move : Visit.Move}
  {out : Progress × Serving σ}

theorem Visit.Goes.weight_lt (h : v.Goes s isFree st move out) :
    Visit.weight { v with progress := out.1 } < v.weight := by
  cases h with
  | leave hw =>
    rcases hw with hp | ⟨k, hp | hp⟩ <;> simp [Visit.weight, hp]
  | enter hp _ | pass hp _ _ | refuse hp _ _ | queue hp _ _ | lock hp _ | confirm hp _ _
  | reject hp _ _ | handle hp => simp [Visit.weight, hp]

/-- Only a client that goes away abandons a request. -/
theorem Visit.Goes.not_abandoned (h : v.Goes s isFree st move out) (hm : move ≠ .leave) :
    out.1 ≠ .abandoned := by
  cases h with
  | leave _ => exact absurd rfl hm
  | enter | pass | refuse | queue | lock | confirm | reject | handle => exact fun h => by cases h

end Progress

namespace Traffic

variable {σ : Type} {s : Service σ} {c : WebConfig} {start : Serving σ}
  {requests : List (Request × String)} {t t' : Traffic σ} {i : Nat} {v : Visit}

/-- The moves that are left at most. -/
def weight (t : Traffic σ) : Nat := (t.visits.map Visit.weight).sum

theorem weight_lt {move : Visit.Move} (h : t.step s (.visit i move) = some t') :
    t'.weight < t.weight := by
  obtain ⟨v, out, hv, hgo, rfl⟩ := step_visit h
  exact sum_set_lt hv hgo.weight_lt

theorem Reaches.head {t₁ : Traffic σ} {turn : Turn} (hs : t.step s turn = some t₁)
    (h : Reaches s t₁ t') : Reaches s t t' := by
  induction h with
  | refl => exact .turn turn .refl hs
  | turn next _ hn ih => exact .turn next ih hn

/-- All can go on until nobody can, without anyone going away. -/
theorem exists_settled (s : Service σ) (t : Traffic σ) : ∃ t', Reaches s t t' ∧ t'.Settled s ∧
    ∀ (i : Nat) (v' : Visit), t'.visits[i]? = some v' → v'.progress = .abandoned →
      t.visits[i]? = some v' := by
  generalize hn : t.weight = n
  induction n using Nat.strongRecOn generalizing t with
  | ind n ih =>
    by_cases hset : t.Settled s
    · exact ⟨t, .refl, hset, fun _ _ h _ => h⟩
    · simp only [Settled, Classical.not_forall] at hset
      obtain ⟨i, move, hm, hstep⟩ := hset
      obtain ⟨t₁, hs⟩ := Option.ne_none_iff_exists'.1 hstep
      obtain ⟨t', hr, hset', hleft⟩ := ih _ (hn ▸ weight_lt hs) t₁ rfl
      refine ⟨t', hr.head hs, hset', fun j v' hv' hp => ?_⟩
      obtain ⟨v, out, hv, hgo, rfl⟩ := step_visit hs
      have hj := hleft j v' hv' hp
      rcases getElem?_set_cases hv hj with ⟨rfl, rfl⟩ | ⟨-, hj⟩
      · exact absurd hp (hgo.not_abandoned hm)
      · exact hj

/-- Where nobody can go on, everyone who has not gone away has an answer. -/
theorem Sound.done_of_settled (ht : Sound s c start requests t) (hset : t.Settled s) :
    ∀ v ∈ t.visits, v.progress = .abandoned ∨ (∃ reply, v.progress = .served reply) ∨
      ∃ reply, v.progress = .turnedAway reply := by
  obtain ⟨g, hg, -⟩ := ht.guard
  have hstuck : ∀ v ∈ t.visits, ∀ move, move ≠ .leave →
      v.step s t.isFree t.serving move = none := by
    intro v hv move hm
    obtain ⟨i, hi⟩ := List.mem_iff_getElem?.1 hv
    have := hset i move hm
    simpa [Traffic.step, hi] using this
  -- nobody holds the lock, as whoever did could check
  have hfree : t.isFree = true := by
    refine List.all_eq_true.2 fun v hv => ?_
    have hcheck := hstuck v hv .check (by simp)
    unfold Visit.isChecking
    split
    · rename_i k hp
      simp only [Visit.step, hp, hg] at hcheck
      split at hcheck <;> cases hcheck
    · rfl
  intro v hv
  cases hp : v.progress with
  | arrived =>
    have h := hstuck v hv .look (by simp)
    simp only [Visit.step, hp, hg] at h
    split at h <;> cases h
  | queued k =>
    have h := hstuck v hv .lock (by simp)
    simp [Visit.step, hp, hfree] at h
  | checking k =>
    have h := hstuck v hv .check (by simp)
    simp only [Visit.step, hp, hg] at h
    split at h <;> cases h
  | admitted =>
    have h := hstuck v hv .handle (by simp)
    simp [Visit.step, hp] at h
  | served reply => exact .inr (.inl ⟨reply, rfl⟩)
  | turnedAway reply => exact .inr (.inr ⟨reply, rfl⟩)
  | abandoned => exact .inl rfl

/-- **Before a guard.** A request that is admitted, and one that was served, is entitled; one that
was turned away is not, and has the challenge for an answer. Every response carries the headers of
the web file. Nobody who waits is forgotten: where nobody can go on all who are still there have
their answers, and all can go on until then. The service is what the handlers of those that were
served have made of it, one after the other, and nothing else but the guard's memory is left of all
others. That memory makes no difference to any request. -/
theorem judged (hc : c.check = .ok c) (hu : c.hasUsers = true) (hg : start.guard = some (.new c))
    (ht : Reaches s (.new start requests) t) :
    (∀ v ∈ t.visits,
      (v.progress = .admitted → Guard.Entitled c.users v.request) ∧
      (∀ reply, v.progress = .served reply →
        Guard.Entitled c.users v.request ∧ reply.Carries c) ∧
      ∀ reply, v.progress = .turnedAway reply →
        ¬ Guard.Entitled c.users v.request ∧ reply.Challenges c) ∧
    (t.Settled s → ∀ v ∈ t.visits, v.progress = .abandoned ∨
      (∃ reply, v.progress = .served reply) ∨ ∃ reply, v.progress = .turnedAway reply) ∧
    (∃ t', Reaches s t t' ∧ t'.Settled s ∧ ∀ (i : Nat) (v' : Visit), t'.visits[i]? = some v' →
      v'.progress = .abandoned → t.visits[i]? = some v') ∧
    (t.visits.map (fun v => (v.request, v.freshId)) = requests ∧
      ∃ log st, Traced s c start requests t log st) ∧
    ∀ g, t.serving.guard = some g → ∀ r, (g.authorize r).1 = ((Guard.new c).authorize r).1 := by
  have hsound := sound_of_reaches hc hu (sound_new hg) ht
  refine ⟨fun v hv => ?_, hsound.done_of_settled, exists_settled s t, ⟨hsound.asked, hsound.traced⟩,
    fun g hg r => ?_⟩
  · have hv := hsound.visits v hv
    unfold Visit.Sound at hv
    refine ⟨fun hp => ?_, fun reply hp => ?_, fun reply hp => ?_⟩ <;>
      · rw [hp] at hv
        exact hv
  · obtain ⟨g', hg', hof⟩ := hsound.guard
    rw [hg] at hg'
    cases hg'
    rw [Bool.eq_iff_iff, Guard.authorize_iff hof hu, Guard.authorize_iff (Guard.of_new c) hu]

end Traffic

/-- One user, and a header for every response. -/
def WebConfig.forOne : WebConfig where
  users := [("prometheus", Guard.unknownUserHash)]
  headers := [("X-Frame-Options", "deny")]

def Serving.guarded : Serving Unit := { Serving.idle with guard := some (.new .forOne) }

theorem judged_stranger : ∃ t reply,
    Traffic.Reaches Service.uptime (.new .guarded [(.forStatus, "1")]) t ∧
    t.visits = [⟨.forStatus, "1", .turnedAway reply⟩] ∧
    ¬ Guard.Entitled WebConfig.forOne.users .forStatus ∧ reply.Challenges .forOne := by
  have hstep :
      (Traffic.new Serving.guarded [(.forStatus, "1")]).step Service.uptime (.visit 0 .look) =
      some ⟨.guarded, [⟨.forStatus, "1",
        .turnedAway
          (Visit.refusal ⟨.forStatus, "1", .arrived⟩ Service.uptime (.new .forOne))⟩]⟩ := rfl
  have hreach := Traffic.Reaches.turn _ .refl hstep
  obtain ⟨hvisits, -⟩ := Traffic.judged (c := .forOne) rfl rfl rfl hreach
  obtain ⟨-, -, haway⟩ := hvisits _ (List.mem_singleton_self _)
  obtain ⟨hnot, hreply⟩ := haway _ rfl
  exact ⟨_, _, hreach, rfl, hnot, hreply⟩

end MysqlMetrics
