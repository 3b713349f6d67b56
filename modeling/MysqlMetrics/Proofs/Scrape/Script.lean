import MysqlMetrics.Scrape.Machine
/-!
# Scripts against a limit

What becomes of a script depends on the script and on the time it is given, and on nobody else:
`Ended` lists the ways in which it may end. Only a script that has slept for exactly its limit when
it has something to say may be cut off there or not; of any other, what it emits (`Ended.emitted`)
and how it comes out (`Ended.isOk_iff`) can be read off the script.
-/
namespace MysqlMetrics.Script

def emitted (acts : List Act) : List Sample :=
  acts.filterMap fun
    | .emit s => some s
    | .sleep _ => none

/-- For how many milliseconds some acts sleep together. -/
def slept : List Act → Nat
  | [] => 0
  | .emit _ :: acts => slept acts
  | .sleep millis :: acts => millis + slept acts

/-- The acts before the first sleep that goes on for longer than the limit. -/
def within (limit : Nat) : List Act → List Act
  | [] => []
  | .emit s :: acts => .emit s :: within limit acts
  | .sleep millis :: acts =>
    if millis ≤ limit then .sleep millis :: within (limit - millis) acts else []

@[simp] theorem emitted_append (pre acts : List Act) :
    emitted (pre ++ acts) = emitted pre ++ emitted acts := List.filterMap_append

@[simp] theorem slept_append : ∀ pre acts : List Act, slept (pre ++ acts) = slept pre + slept acts
  | [], _ => by simp [slept]
  | .emit _ :: pre, acts => slept_append pre acts
  | .sleep millis :: pre, acts => by
    have := slept_append pre acts
    simp only [List.cons_append, slept]
    omega

theorem within_append : ∀ {limit : Nat} {pre : List Act} (acts : List Act), slept pre ≤ limit →
    within limit (pre ++ acts) = pre ++ within (limit - slept pre) acts
  | _, [], _, _ => rfl
  | limit, .emit s :: pre, acts, h => by
    have ih := within_append acts (by simpa [slept] using h : slept pre ≤ limit)
    simp [within, slept, ih]
  | limit, .sleep millis :: pre, acts, h => by
    simp only [slept] at h
    have ih := within_append acts (by omega : slept pre ≤ limit - millis)
    have hm : millis ≤ limit := by omega
    simp [within, slept, ih, hm, Nat.sub_add_eq]

theorem within_eq_self {limit : Nat} {acts : List Act} (h : slept acts ≤ limit) :
    within limit acts = acts := by
  have := within_append [] h
  simpa [within] using this

/-- How a script may end that has so many milliseconds: what it has emitted by then, how it comes
out, and how long it takes. -/
inductive Ended (limit : Nat) (script : Script) : List Sample → Outcome → Nat → Prop
  | ok (he : script.ending = .ok) (hs : slept script.acts ≤ limit) :
    Ended limit script (emitted script.acts) .ok (slept script.acts)
  | failed {message : String} (he : script.ending = .failed message)
    (hs : slept script.acts ≤ limit) :
    Ended limit script (emitted script.acts) .failed (slept script.acts)
  | panicked {message : String} (he : script.ending = .panicked message)
    (hs : slept script.acts ≤ limit) :
    Ended limit script (emitted script.acts) .panicked (slept script.acts)
  | late {pre acts : List Act} {millis : Nat} (ha : script.acts = pre ++ .sleep millis :: acts)
    (hs : slept pre ≤ limit) (hl : limit < slept pre + millis) :
    Ended limit script (emitted pre) .cutOff limit
  | crowdedOut {pre acts : List Act} {s : Sample} (ha : script.acts = pre ++ .emit s :: acts)
    (hs : slept pre = limit) : Ended limit script (emitted pre) .cutOff limit

/-- At no point has the script slept for exactly the limit. -/
def Clear (limit : Nat) (script : Script) : Prop :=
  ∀ pre, pre <+: script.acts → slept pre ≠ limit

theorem slept_le_of_isPrefix {pre acts : List Act} (h : pre <+: acts) : slept pre ≤ slept acts := by
  obtain ⟨rest, rfl⟩ := h
  rw [slept_append]
  exact Nat.le_add_right _ _

theorem clear_of_slept_lt {limit : Nat} {script : Script} (h : slept script.acts < limit) :
    script.Clear limit := fun pre hp he => by
  have := slept_le_of_isPrefix hp
  omega

variable {limit elapsed : Nat} {script : Script} {out : List Sample} {o : Outcome}

namespace Ended

theorem sublist (h : Ended limit script out o elapsed) : out.Sublist (emitted script.acts) := by
  cases h with
  | ok | failed | panicked => exact List.Sublist.refl _
  | late ha _ _ | crowdedOut ha _ =>
    rw [ha, emitted_append]
    exact List.sublist_append_left _ _

/-- What a script emits of itself. -/
theorem emitted (h : Ended limit script out o elapsed) (hc : script.Clear limit) :
    out = Script.emitted (within limit script.acts) := by
  cases h with
  | ok _ hs | failed _ hs | panicked _ hs => rw [within_eq_self hs]
  | @late pre acts millis ha hs hl =>
    have : ¬ millis ≤ limit - slept pre := by omega
    rw [ha, within_append _ hs]
    simp [within, this]
  | @crowdedOut pre acts s ha hs => exact absurd hs (hc pre ⟨_, ha.symm⟩)

theorem slept_le (h : Ended limit script out o elapsed) (ho : o ≠ .cutOff) :
    slept script.acts ≤ limit := by
  cases h <;> first | assumption | exact absurd rfl ho

theorem isOk_iff (h : Ended limit script out o elapsed) (hc : script.Clear limit) :
    o.isOk = true ↔ script.ending = .ok ∧ slept script.acts < limit := by
  have hne := hc script.acts List.prefix_rfl
  cases h with
  | ok he hs => simp only [Outcome.isOk, beq_self_eq_true, he, true_and, true_iff]; omega
  | failed he _ | panicked he _ => simp [Outcome.isOk, he]
  | late ha hs hl =>
    have : ¬ slept script.acts < limit := by simp only [ha, slept_append, slept]; omega
    simp [Outcome.isOk, this]
  | crowdedOut ha hs => exact absurd hs (hc _ ⟨_, ha.symm⟩)

theorem panicked_iff (h : Ended limit script out o elapsed) :
    o = .panicked ↔ o ≠ .cutOff ∧ ∃ message, script.ending = .panicked message := by
  cases h with
  | ok he _ | failed he _ => simp [he]
  | panicked he _ => simp [he]
  | late | crowdedOut => simp

end Ended
end MysqlMetrics.Script
