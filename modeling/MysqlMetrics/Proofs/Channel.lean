import MysqlMetrics.Metric.Channel
/-!
# What a channel keeps

Whatever calls write to a sink, in whatever turns, and whatever its reader does meanwhile: while the
reader is there, what was read and what is still queued are together all that the sink took
(`Channel.Sound.kept`). `Turned` tells once what a turn of a call may do, `Sound.step` what one move
preserves, and `Sound.run` what any number of moves preserve. `ends_write` brings a call that has
the sink to itself back to `Sink.write`, and `run_account` is what follows for a reader and a
writer.
-/
namespace MysqlMetrics

namespace Sink

variable {k : Sink} {s : Sample}

theorem reader_of_isClosed_false (h : k.isClosed = false) : k.reader = .open := by
  simpa [isClosed] using h

theorem sendAll_singleton : k.sendAll [s] = k.send s := by
  rcases hs : k.send s with ⟨delivery, k'⟩
  by_cases hd : delivery = .done
  · subst hd
    rw [sendAll_cons_of_done hs, sendAll]
  · rw [sendAll_cons_of_stop hs hd, send_stops hs hd]

/-- All that is asked of a sink is to make samples and to send them in order. -/
theorem write_eq (k : Sink) (w : Write) : k.write w =
    match w.samples with
    | .ok samples => k.sendAll samples
    | .error e => (.refused e, k) := by
  cases w with
  | send s => exact sendAll_singleton.symm
  | emit desc value labels =>
    cases hs : Sample.scalar desc value labels with
    | error e => simp [write, Write.samples, emit, hs, Except.map]
    | ok s => simp [write, Write.samples, emit, hs, Except.map, sendAll_singleton]
  | sendAll samples => rfl

/-- The sink takes a beginning of a list, and answers so only for the whole list. -/
theorem sendAll_prefix (k : Sink) (samples : List Sample) : ∃ sent left,
    samples = sent ++ left ∧ (k.sendAll samples).2 = { k with queue := k.queue ++ sent } ∧
      ((k.sendAll samples).1 = .done ↔ left = []) := by
  induction samples generalizing k with
  | nil => exact ⟨[], [], rfl, by simp [sendAll], by simp [sendAll]⟩
  | cons s rest ih =>
    rcases hs : k.send s with ⟨delivery, k'⟩
    by_cases hd : delivery = .done
    · subst hd
      obtain ⟨-, rfl⟩ := send_done hs
      obtain ⟨sent, left, rfl, hqueue, hdone⟩ := ih (k.enqueue s)
      rw [sendAll_cons_of_done hs]
      exact ⟨s :: sent, left, rfl, by rw [hqueue]; simp [enqueue], hdone⟩
    · rw [sendAll_cons_of_stop hs hd]
      exact ⟨[], s :: rest, rfl, by simp, by simpa using hd⟩

/-- A closed sink refuses whatever could be sent. -/
theorem write_of_isClosed {w : Write} {left : List Sample} (h : k.isClosed = true)
    (hw : w.samples = .ok (s :: left)) : k.write w = (.refused .sinkClosed, k) := by
  rw [write_eq, hw]
  exact sendAll_cons_of_stop (send_of_isClosed h) (by simp)

/-- What an emit answers when there are too few labels, or too many. -/
def misfit (desc : Desc) (labels : List String) : MetricError :=
  if desc.kind.isScalar then .labelCount desc.name desc.labels.length labels.length
  else .missingData desc.name desc.kind

theorem emit_misfit {desc : Desc} {labels : List String} (k : Sink) (value : Float)
    (h : labels.length ≠ desc.labels.length) :
    k.emit desc value labels = (.refused (misfit desc labels), k) := by
  unfold emit misfit Sample.scalar
  by_cases hkind : desc.kind.isScalar = true
  · rw [if_pos hkind, if_pos hkind, Sample.build, if_neg h]
  · rw [if_neg hkind, if_neg hkind]

end Sink

/-! ## Calls -/

namespace WriteCall

/-- What the stage of a call tells of its samples. -/
def Sound (c : WriteCall) (k : Sink) : Prop :=
  match c.stage with
  | .begun => c.sent = []
  | .sending left => c.write.samples = .ok (c.sent ++ left)
  | .answered (.ok ()) => c.write.samples = .ok c.sent
  | .answered (.error e) =>
    (c.write.samples = .error e ∧ c.sent = []) ∨
      (e = .sinkClosed ∧ k.isClosed = true ∧ ∃ left, c.write.samples = .ok (c.sent ++ left))
  | .abandoned => c.sent = [] ∨ ∃ left, c.write.samples = .ok (c.sent ++ left)

theorem Sound.mono {c : WriteCall} {k k' : Sink} (h : c.Sound k)
    (hclosed : k.isClosed = true → k'.isClosed = true) : c.Sound k' := by
  unfold Sound at *
  split
  · rename_i hstage; simpa only [hstage] using h
  · rename_i hstage; simpa only [hstage] using h
  · rename_i hstage; simpa only [hstage] using h
  · rename_i hstage
    simp only [hstage] at h
    obtain hmade | ⟨he, hk, hleft⟩ := h
    · exact .inl hmade
    · exact .inr ⟨he, hclosed hk, hleft⟩
  · rename_i hstage; simpa only [hstage] using h

/-- What a call has sent is a beginning of its samples, and it answers that it is done only when
that is all of them. A call that cannot make its samples sends none. -/
def Truthful (c : WriteCall) (k : Sink) : Prop :=
  match c.write.samples with
  | .ok samples =>
    c.sent <+: samples ∧ (c.stage.delivery = .done → c.sent = samples) ∧
      ∀ e, c.stage.delivery = .refused e → e = .sinkClosed ∧ k.isClosed = true
  | .error e => c.sent = [] ∧ (c.stage.delivery = .waits ∨ c.stage.delivery = .refused e)

theorem Sound.start {c : WriteCall} {k : Sink} (h : c.Sound k) :
    c.sent = [] ∨ ∃ left, c.write.samples = .ok (c.sent ++ left) := by
  unfold Sound at h
  split at h
  · exact .inl h
  · exact .inr ⟨_, h⟩
  · exact .inr ⟨[], by simpa using h⟩
  · obtain ⟨-, hsent⟩ | ⟨-, -, hleft⟩ := h
    · exact .inl hsent
    · exact .inr hleft
  · exact h

theorem Sound.truthful {c : WriteCall} {k : Sink} (h : c.Sound k) : c.Truthful k := by
  unfold Truthful
  cases hw : c.write.samples with
  | ok samples =>
    refine ⟨?_, ?_, ?_⟩
    · obtain hsent | ⟨left, hleft⟩ := h.start
      · rw [hsent]
        exact List.nil_prefix
      · cases hw.symm.trans hleft
        exact List.prefix_append _ _
    · intro hdone
      have hsamples : c.write.samples = .ok c.sent := by
        simpa [Sound, Writing.delivery_eq_done.1 hdone] using h
      cases hw.symm.trans hsamples
      rfl
    · intro e he
      simp only [Sound, Writing.delivery_eq_refused.1 he] at h
      obtain ⟨hfailed, -⟩ | ⟨rfl, hclosed, -⟩ := h
      · cases hw.symm.trans hfailed
      · exact ⟨rfl, hclosed⟩
  | error e =>
    refine ⟨?_, ?_⟩
    · obtain hsent | ⟨left, hleft⟩ := h.start
      · exact hsent
      · cases hw.symm.trans hleft
    · cases hd : c.stage.delivery with
      | waits => exact .inl rfl
      | done =>
        have hsamples : c.write.samples = .ok c.sent := by
          simpa [Sound, Writing.delivery_eq_done.1 hd] using h
        cases hw.symm.trans hsamples
      | refused e' =>
        simp only [Sound, Writing.delivery_eq_refused.1 hd] at h
        obtain ⟨hfailed, -⟩ | ⟨-, -, left, hleft⟩ := h
        · cases hw.symm.trans hfailed
          exact .inr rfl
        · cases hw.symm.trans hleft

end WriteCall

namespace Channel

variable {t t' : Channel} {i : Nat} {c : WriteCall}

/-- What a turn of a call may do, and what giving it up does. -/
inductive Turned (t : Channel) (i : Nat) (c : WriteCall) : Channel → Prop
  | stay : Turned t i c t
  | settle {stage : Writing} (hs : WriteCall.Sound { c with stage := stage } t.sink) :
    Turned t i c (t.settle i c stage)
  | accept {s : Sample} {left : List Sample} (hc : c.stage = .sending (s :: left))
    (hroom : t.sink.hasRoom) : Turned t i c (t.accept i c s left (t.sink.enqueue s))

theorem turned_turn (h : c.Sound t.sink) : t.Turned i c (t.turn i c) := by
  unfold turn
  split
  · rename_i hstage
    have hsent : c.sent = [] := by simpa [WriteCall.Sound, hstage] using h
    split
    · rename_i hsamples
      exact .settle (by simp [WriteCall.Sound, hsent, hsamples])
    · rename_i hsamples
      exact .settle (.inl ⟨hsamples, hsent⟩)
  · rename_i hstage
    exact .settle (by simpa [WriteCall.Sound, hstage] using h)
  · rename_i s left hstage
    have hsamples : c.write.samples = .ok (c.sent ++ s :: left) := by
      simpa [WriteCall.Sound, hstage] using h
    split
    · rename_i hs
      obtain ⟨hroom, rfl⟩ := Sink.send_done hs
      exact .accept hstage hroom
    · rename_i hs
      obtain ⟨hclosed, rfl⟩ := Sink.send_refused hs
      rw [Sink.send_of_isClosed hclosed] at hs
      cases hs
      exact .settle (.inr ⟨rfl, hclosed, _, hsamples⟩)
    · exact .stay
  · exact .stay
  · exact .stay

theorem turned_abandon (h : c.Sound t.sink) : t.Turned i c (t.abandon i c) := by
  unfold abandon
  split
  · rename_i hstage
    have hsent : c.sent = [] := by simpa [WriteCall.Sound, hstage] using h
    exact .settle (.inl hsent)
  · rename_i left hstage
    have hsamples : c.write.samples = .ok (c.sent ++ left) := by
      simpa [WriteCall.Sound, hstage] using h
    exact .settle (.inr ⟨left, hsamples⟩)
  · exact .stay
  · exact .stay

/-! ## What every move preserves -/

theorem step_turn (hc : t.calls[i]? = some c) : t.step (.turn i) = t.turn i c := by
  rw [step, hc]
  rfl

theorem getElem?_set_of_call (hc : t.calls[i]? = some c) (d : WriteCall) :
    (t.calls.set i d)[i]? = some d :=
  List.getElem?_set_self (List.getElem?_eq_some_iff.1 hc).1

theorem call_set_cases (hc : t.calls[i]? = some c) {j : Nat} {d e : WriteCall}
    (he : (t.calls.set i d)[j]? = some e) : i = j ∧ e = d ∨ i ≠ j ∧ t.calls[j]? = some e := by
  by_cases hj : i = j
  · subst hj
    rw [getElem?_set_of_call hc] at he
    cases he
    exact .inl ⟨rfl, rfl⟩
  · rw [List.getElem?_set_ne hj] at he
    exact .inr ⟨hj, he⟩

/-- What holds of a channel at all times. -/
structure Sound (t : Channel) : Prop where
  room : t.sink.queue.length ≤ t.sink.capacity
  /-- Nothing is lost and nothing is read twice while the reader is there. -/
  kept : t.sink.reader ≠ .gone → t.received ++ t.sink.queue = t.accepted.map (·.2)
  read : t.received <+: t.accepted.map (·.2)
  calls : ∀ i c, t.calls[i]? = some c → t.acceptedFrom i = c.sent ∧ c.Sound t.sink
  known : ∀ p ∈ t.accepted, p.1 < t.calls.length

theorem sound_new (capacity : Nat) : (new capacity).Sound where
  room := Nat.zero_le _
  kept _ := rfl
  read := List.nil_prefix
  calls i c hc := by simp [new] at hc
  known p hp := by simp [new] at hp

theorem Sound.write (h : t.Sound) (w : Write) : (t.step (.write w)).Sound where
  room := h.room
  kept := h.kept
  read := h.read
  calls i c hc := by
    by_cases hi : i < t.calls.length
    · rw [step, List.getElem?_append_left hi] at hc
      exact h.calls i c hc
    · rw [step, List.getElem?_append_right (by omega)] at hc
      obtain rfl := List.mem_singleton.1 (List.mem_of_getElem? hc)
      refine ⟨?_, rfl⟩
      have hnone : t.accepted.filter (fun p => p.1 = i) = [] := by
        refine List.filter_eq_nil_iff.2 fun p hp => ?_
        have hlt := h.known p hp
        simp only [decide_eq_true_eq]
        omega
      exact congrArg (List.map (·.2)) hnone
  known p hp := by
    have hlt := h.known p hp
    simp only [step, List.length_append]
    omega

theorem Sound.settle (h : t.Sound) (hc : t.calls[i]? = some c) {stage : Writing}
    (hs : WriteCall.Sound { c with stage := stage } t.sink) : (t.settle i c stage).Sound where
  room := h.room
  kept := h.kept
  read := h.read
  calls j d hd := by
    obtain ⟨rfl, rfl⟩ | ⟨-, hd⟩ := call_set_cases hc hd
    · exact ⟨(h.calls i c hc).1, hs⟩
    · exact h.calls j d hd
  known p hp := by
    have hlt := h.known p hp
    simpa [Channel.settle] using hlt

theorem Sound.accept (h : t.Sound) (hc : t.calls[i]? = some c) {s : Sample} {left : List Sample}
    (hstage : c.stage = .sending (s :: left)) (hroom : t.sink.hasRoom) :
    (t.accept i c s left (t.sink.enqueue s)).Sound where
  room := by
    have hlt := hroom.2
    simp only [Channel.accept, Sink.enqueue, List.length_append, List.length_singleton]
    omega
  kept _ := by
    have hopen := Sink.reader_of_isClosed_false hroom.1
    have hkept := h.kept (by simp [hopen])
    simp only [Channel.accept, Sink.enqueue, List.map_append, ← hkept, List.append_assoc]
    rfl
  read := by
    simp only [Channel.accept, List.map_append]
    exact h.read.trans (List.prefix_append _ _)
  calls j d hd := by
    obtain ⟨rfl, rfl⟩ | ⟨hj, hd⟩ := call_set_cases hc hd
    · obtain ⟨hsent, hsound⟩ := h.calls i c hc
      refine ⟨?_, ?_⟩
      · simpa [acceptedFrom, Channel.accept] using hsent
      · simpa [WriteCall.Sound, hstage] using hsound
    · obtain ⟨hsent, hsound⟩ := h.calls j d hd
      refine ⟨?_, hsound.mono id⟩
      simpa [acceptedFrom, Channel.accept, hj] using hsent
  known p hp := by
    simp only [Channel.accept, List.mem_append, List.mem_singleton, List.length_set] at hp ⊢
    obtain hold | rfl := hp
    · exact h.known p hold
    · exact (List.getElem?_eq_some_iff.1 hc).1

theorem Sound.turned (h : t.Sound) (hc : t.calls[i]? = some c) (ht : t.Turned i c t') :
    t'.Sound := by
  cases ht with
  | stay => exact h
  | settle hs => exact h.settle hc hs
  | accept hstage hroom => exact h.accept hc hstage hroom

/-- A read takes the first sample of the queue. It changes nothing when there is none, or nobody to
read it. -/
theorem receive_cases (t : Channel) :
    t.receive = t ∧ (t.sink.reader ≠ .gone → t.sink.queue = []) ∨
    ∃ s rest, t.sink.reader ≠ .gone ∧ t.sink.queue = s :: rest ∧
      t.receive =
        { t with sink := { t.sink with queue := rest }, received := t.received ++ [s] } := by
  unfold receive Sink.receive
  cases hreader : t.sink.reader with
  | gone => exact .inl ⟨rfl, fun hne => absurd rfl hne⟩
  | «open» | closed =>
    cases hqueue : t.sink.queue with
    | nil => exact .inl ⟨rfl, fun _ => rfl⟩
    | cons s rest => exact .inr ⟨s, rest, by simp, rfl, by simp [hreader]⟩

theorem Sound.receive (h : t.Sound) : t.receive.Sound := by
  obtain ⟨heq, -⟩ | ⟨s, rest, hreader, hqueue, heq⟩ := receive_cases t
  · rw [heq]
    exact h
  · have hkept : (t.received ++ [s]) ++ rest = t.accepted.map (·.2) := by
      have hkept := h.kept hreader
      rw [hqueue] at hkept
      simpa using hkept
    rw [heq]
    exact {
      room := by
        have hroom := h.room
        rw [hqueue, List.length_cons] at hroom
        exact Nat.le_of_succ_le hroom
      kept := fun _ => hkept
      read := ⟨rest, hkept⟩
      calls := fun i c hc => by
        obtain ⟨hsent, hsound⟩ := h.calls i c hc
        exact ⟨hsent, hsound.mono id⟩
      known := h.known }

theorem Sound.close (h : t.Sound) : (t.step .close).Sound where
  room := h.room
  kept hreader := h.kept fun hgone => hreader (by simp [step, Sink.close, hgone])
  read := h.read
  calls i c hc := by
    obtain ⟨hsent, hsound⟩ := h.calls i c hc
    exact ⟨hsent, hsound.mono fun _ => Sink.isClosed_close t.sink⟩
  known := h.known

theorem Sound.drop (h : t.Sound) : (t.step .drop).Sound where
  room := Nat.zero_le _
  kept hreader := absurd rfl hreader
  read := h.read
  calls i c hc := by
    obtain ⟨hsent, hsound⟩ := h.calls i c hc
    exact ⟨hsent, hsound.mono fun _ => Sink.isClosed_drop t.sink⟩
  known := h.known

/-- A move of a call is one of its turns, unless there is no such call. -/
theorem Sound.call_step (h : t.Sound) {m : Move} (hm : m = .turn i ∨ m = .abandon i) :
    t.step m = t ∨ ∃ c, t.calls[i]? = some c ∧ t.Turned i c (t.step m) := by
  cases hc : t.calls[i]? with
  | none =>
    refine .inl ?_
    obtain rfl | rfl := hm
    · simp [Channel.step, hc]
    · simp [Channel.step, hc]
  | some c =>
    have hsound := (h.calls i c hc).2
    refine .inr ⟨c, rfl, ?_⟩
    obtain rfl | rfl := hm
    · rw [step_turn hc]
      exact turned_turn hsound
    · rw [Channel.step, hc]
      exact turned_abandon hsound

theorem Sound.of_call_step (h : t.Sound) {m : Move} (hm : m = .turn i ∨ m = .abandon i) :
    (t.step m).Sound := by
  obtain heq | ⟨c, hc, ht⟩ := h.call_step hm
  · rw [heq]
    exact h
  · exact h.turned hc ht

theorem Sound.step (h : t.Sound) (m : Move) : (t.step m).Sound := by
  cases m with
  | write w => exact h.write w
  | turn i => exact h.of_call_step (.inl rfl)
  | abandon i => exact h.of_call_step (.inr rfl)
  | receive => exact h.receive
  | close => exact h.close
  | drop => exact h.drop

theorem Sound.run (h : t.Sound) (moves : List Move) : (t.run moves).Sound := by
  induction moves generalizing t with
  | nil => exact h
  | cons m moves ih => exact ih (h.step m)

/-! ## The reader -/

/-- What a move makes of the reader. -/
def Move.reader : Move → ReadSide → ReadSide
  | .close, r => if r = .gone then .gone else .closed
  | .drop, _ => .gone
  | _, r => r

theorem Move.reader_call {m : Move} (hm : m = .turn i ∨ m = .abandon i) (r : ReadSide) :
    m.reader r = r := by
  obtain rfl | rfl := hm <;> rfl

/-- A move leaves the sink its capacity, and does to its reader what the move says. A closed sink
takes nothing. -/
structure Governed (t : Channel) (m : Move) (t' : Channel) : Prop where
  capacity : t'.sink.capacity = t.sink.capacity
  reader : t'.sink.reader = m.reader t.sink.reader
  accepted : t.sink.isClosed = true → t'.accepted = t.accepted

theorem Sound.governed_call (h : t.Sound) {m : Move} (hm : m = .turn i ∨ m = .abandon i) :
    t.Governed m (t.step m) := by
  have hreader := (Move.reader_call hm t.sink.reader).symm
  obtain heq | ⟨c, -, ht⟩ := h.call_step hm
  · rw [heq]
    exact ⟨rfl, hreader, fun _ => rfl⟩
  · generalize t.step m = t' at ht
    cases ht with
    | stay => exact ⟨rfl, hreader, fun _ => rfl⟩
    | settle _ => exact ⟨rfl, hreader, fun _ => rfl⟩
    | accept _ hroom => exact ⟨rfl, hreader, fun hclosed => by simp [hroom.1] at hclosed⟩

theorem Sound.governed (h : t.Sound) (m : Move) : t.Governed m (t.step m) := by
  cases m with
  | write w => exact ⟨rfl, rfl, fun _ => rfl⟩
  | turn i => exact h.governed_call (.inl rfl)
  | abandon i => exact h.governed_call (.inr rfl)
  | receive =>
    obtain ⟨heq, -⟩ | ⟨s, rest, -, -, heq⟩ := receive_cases t
    · rw [Channel.step, heq]
      exact ⟨rfl, rfl, fun _ => rfl⟩
    · rw [Channel.step, heq]
      exact ⟨rfl, rfl, fun _ => rfl⟩
  | close => exact ⟨rfl, rfl, fun _ => rfl⟩
  | drop => exact ⟨rfl, rfl, fun _ => rfl⟩

theorem Sound.capacity_run (h : t.Sound) (moves : List Move) :
    (t.run moves).sink.capacity = t.sink.capacity := by
  induction moves generalizing t with
  | nil => rfl
  | cons m moves ih => exact (ih (h.step m)).trans (h.governed m).capacity

theorem Sound.gone_run (h : t.Sound) (moves : List Move) :
    (t.run moves).sink.reader = .gone ↔ t.sink.reader = .gone ∨ .drop ∈ moves := by
  induction moves generalizing t with
  | nil => simp
  | cons m moves ih =>
    have hstep : (t.step m).sink.reader = .gone ↔ t.sink.reader = .gone ∨ .drop = m := by
      rw [(h.governed m).reader]
      cases m with
      | close => cases t.sink.reader <;> simp [Move.reader]
      | _ => simp [Move.reader]
    rw [run_cons, ih (h.step m), hstep, List.mem_cons, or_assoc]

/-- A sink is closed from a close or drop on, and not before. -/
theorem Sound.isClosed_run (h : t.Sound) (moves : List Move) :
    (t.run moves).sink.isClosed = true ↔
      t.sink.isClosed = true ∨ .close ∈ moves ∨ .drop ∈ moves := by
  induction moves generalizing t with
  | nil => simp
  | cons m moves ih =>
    have hstep : (t.step m).sink.isClosed = true ↔
        t.sink.isClosed = true ∨ .close = m ∨ .drop = m := by
      rw [Sink.isClosed, (h.governed m).reader, Sink.isClosed]
      cases m with
      | close => cases t.sink.reader <;> simp [Move.reader]
      | _ => simp [Move.reader]
    rw [run_cons, ih (h.step m), hstep, List.mem_cons, List.mem_cons, or_assoc, or_or_or_comm]

/-- In a closed sink a call that still has to send is refused in its turn. -/
theorem step_turn_of_isClosed (hclosed : t.sink.isClosed = true) (hc : t.calls[i]? = some c)
    {s : Sample} {left : List Sample} (hstage : c.stage = .sending (s :: left)) :
    t.step (.turn i) = t.settle i c (.answered (.error .sinkClosed)) := by
  rw [step_turn hc, turn, hstage]
  simp only [Sink.send_of_isClosed hclosed]

theorem Sound.accepted_run (h : t.Sound) (hclosed : t.sink.isClosed = true) (moves : List Move) :
    (t.run moves).accepted = t.accepted := by
  induction moves generalizing t with
  | nil => rfl
  | cons m moves ih =>
    have hstill : (t.step m).sink.isClosed = true := (h.isClosed_run [m]).2 (.inl hclosed)
    exact (ih (h.step m) hstill).trans ((h.governed m).accepted hclosed)

/-- Whatever else holds, what is queued can be read in order until the reader goes away. -/
theorem received_run_receive (h : t.sink.reader ≠ .gone) (n : Nat) :
    (t.run (List.replicate n .receive)).received = t.received ++ t.sink.queue.take n := by
  induction n generalizing t with
  | zero => simp
  | succ n ih =>
    rw [List.replicate_succ, run_cons, step]
    obtain ⟨heq, hempty⟩ | ⟨s, rest, -, hqueue, heq⟩ := receive_cases t
    · rw [heq, ih h, hempty h, List.take_nil, List.take_nil]
    · rw [heq, hqueue, List.take_succ_cons]
      refine (ih ?_).trans ?_
      · exact h
      · exact List.append_assoc _ _ _

/-! ## One call alone -/

/-- Turns of one call alone bring it to an answer and leave this sink. -/
def Ends (t : Channel) (i : Nat) (result : Delivery × Sink) : Prop :=
  ∃ n, (t.run (List.replicate n (.turn i))).sink = result.2 ∧
    ∃ c, (t.run (List.replicate n (.turn i))).calls[i]? = some c ∧ c.stage.delivery = result.1

theorem Ends.turn {result : Delivery × Sink} (h : (t.step (.turn i)).Ends i result) :
    t.Ends i result := by
  obtain ⟨n, h⟩ := h
  exact ⟨n + 1, h⟩

/-- A call that comes to a stage ends where this stage ends. -/
theorem ends_settle (hc : t.calls[i]? = some c) (stage : Writing) :
    (t.settle i c stage).Ends i (stage.delivery, t.sink) :=
  ⟨0, rfl, _, getElem?_set_of_call hc _, rfl⟩

theorem ends_sending {samples : List Sample} (hc : t.calls[i]? = some c)
    (hstage : c.stage = .sending samples) : t.Ends i (t.sink.sendAll samples) := by
  induction samples generalizing t c with
  | nil =>
    refine Ends.turn ?_
    rw [step_turn hc, turn, hstage]
    exact ends_settle hc (.answered (.ok ()))
  | cons s left ih =>
    rcases hs : t.sink.send s with ⟨delivery, k⟩
    cases delivery with
    | done =>
      rw [Sink.sendAll_cons_of_done hs]
      refine Ends.turn ?_
      rw [step_turn hc, turn, hstage]
      simp only [hs]
      exact ih (t := t.accept i c s left k) (getElem?_set_of_call hc _) rfl
    | refused e =>
      rw [Sink.sendAll_cons_of_stop hs (by simp)]
      refine Ends.turn ?_
      rw [step_turn hc, turn, hstage]
      simp only [hs]
      exact ends_settle hc (.answered (.error e))
    | waits =>
      rw [Sink.sendAll_cons_of_stop hs (by simp)]
      exact ⟨0, rfl, c, hc, by rw [hstage]; rfl⟩

/-- A call that has the sink to itself does what `Sink.write` does. -/
theorem ends_write (t : Channel) (w : Write) :
    (t.step (.write w)).Ends t.calls.length (t.sink.write w) := by
  have hc : (t.step (.write w)).calls[t.calls.length]? = some { write := w } := by simp [step]
  rw [Sink.write_eq]
  refine Ends.turn ?_
  rw [step_turn hc, turn]
  cases hw : w.samples with
  | error e => exact ends_settle hc (.answered (.error e))
  | ok samples => exact ends_sending (getElem?_set_of_call hc _) rfl

/-! ## Any run -/

/-- Whatever is asked of a sink of any capacity, and whatever happens to what was asked: the sink
never holds more than its capacity, or one sample for a capacity of none, and takes a sample while
it holds fewer. What was read and what is queued are what it took while the reader is there, and
what is queued can still be read. It is closed from a close or drop on, and then refuses all that
could be sent and takes nothing. What it took from a call is a beginning of the call's samples, and
all of them if the call is done; a call alone does what `Sink.write` does. An emit whose labels do
not fit is refused for it and changes nothing. -/
theorem run_account (capacity : Nat) (moves : List Move) :
    let t := (new capacity).run moves
    t.sink.queue.length ≤ max capacity 1 ∧
      t.received <+: t.accepted.map (·.2) ∧
      (.drop ∉ moves → t.received ++ t.sink.queue = t.accepted.map (·.2)) ∧
      (.drop ∉ moves → ∀ n, (t.run (List.replicate n .receive)).received =
        t.received ++ t.sink.queue.take n) ∧
      (t.sink.isClosed = true ↔ .close ∈ moves ∨ .drop ∈ moves) ∧
      (t.sink.isClosed = false → t.sink.queue.length < max capacity 1 →
        ∀ s, t.sink.send s = (.done, t.sink.enqueue s)) ∧
      (t.sink.isClosed = true →
        (∀ w s left, w.samples = .ok (s :: left) →
          t.sink.write w = (.refused .sinkClosed, t.sink)) ∧
        (∀ i c s left, t.calls[i]? = some c → c.stage = .sending (s :: left) →
          t.step (.turn i) = t.settle i c (.answered (.error .sinkClosed))) ∧
        ∀ more, (t.run more).accepted = t.accepted) ∧
      (∀ i c, t.calls[i]? = some c → t.acceptedFrom i = c.sent ∧ c.Truthful t.sink) ∧
      (∀ w, (t.step (.write w)).Ends t.calls.length (t.sink.write w)) ∧
      (∀ samples, ∃ sent left, samples = sent ++ left ∧
        (t.sink.sendAll samples).2 = { t.sink with queue := t.sink.queue ++ sent } ∧
        ((t.sink.sendAll samples).1 = .done ↔ left = [])) ∧
      ∀ desc value labels, labels.length ≠ desc.labels.length →
        t.sink.emit desc value labels = (.refused (Sink.misfit desc labels), t.sink) := by
  intro t
  have hnew := sound_new capacity
  have h : t.Sound := hnew.run moves
  have hgone : .drop ∉ moves → t.sink.reader ≠ .gone := by
    intro hdrop hreader
    obtain hat | hin := (hnew.gone_run moves).1 hreader
    · cases hat
    · exact hdrop hin
  have hcapacity : t.sink.capacity = max capacity 1 := hnew.capacity_run moves
  refine ⟨?_, h.read, ?_, ?_, ?_, ?_, ?_, ?_, ?_, ?_, ?_⟩
  · rw [← hcapacity]
    exact h.room
  · intro hdrop
    exact h.kept (hgone hdrop)
  · intro hdrop n
    exact received_run_receive (hgone hdrop) n
  · have hclosed := hnew.isClosed_run moves
    rw [hclosed]
    simp [new, Sink.new, Sink.isClosed]
  · intro hopen hlt s
    rw [← hcapacity] at hlt
    exact Sink.send_of_hasRoom ⟨hopen, hlt⟩
  · intro hclosed
    refine ⟨?_, ?_, ?_⟩
    · intro w s left hw
      exact Sink.write_of_isClosed hclosed hw
    · intro i c s left hc hstage
      exact step_turn_of_isClosed hclosed hc hstage
    · intro more
      exact h.accepted_run hclosed more
  · intro i c hc
    obtain ⟨hsent, hsound⟩ := h.calls i c hc
    exact ⟨hsent, hsound.truthful⟩
  · intro w
    exact ends_write t w
  · intro samples
    exact Sink.sendAll_prefix t.sink samples
  · intro desc value labels hmisfit
    exact Sink.emit_misfit t.sink value hmisfit

/-- The labels are not the first thing that an emit looks at. -/
theorem emit_histogram_missing :
    ¬ ∀ (k : Sink) (desc : Desc) (value : Float) (labels : List String),
    labels.length ≠ desc.labels.length → (k.emit desc value labels).1 =
      .refused (.labelCount desc.name desc.labels.length labels.length) := by
  intro h
  have hhistogram := h (Sink.new 1) ⟨"m", "h", .histogram, ["l"], []⟩ 1 [] (by decide)
  have hmissing : (Delivery.refused (.missingData "m" .histogram)) =
      .refused (.labelCount "m" 1 0) := hhistogram
  cases hmissing

end Channel
end MysqlMetrics
