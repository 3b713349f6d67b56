import Mathlib.Data.List.Nodup
import MysqlMetrics.Argument
import MysqlMetrics.Proofs.Decimal.Whole
import MysqlMetrics.Proofs.Results
/-!
# Values of arguments

A value is written as a text, and the text is read as the kind of the argument says
(`reading_toText`). What a set of arguments is given replaces the values of the names given and
leaves all others as they were (`valueOf_assignAll`).
-/
namespace MysqlMetrics

/-! ## Texts of values -/

/-- Every value but a number too large for 64 bits with a sign. -/
def ArgValue.Representable : ArgValue → Prop
  | .int i => -9223372036854775808 ≤ i ∧ i ≤ 9223372036854775807
  | _ => True

namespace ArgDefinition

/-- The value that an argument is given by a text, or by standing without one. -/
def reading (d : ArgDefinition) (text : Option String) : Option ArgValue :=
  match d.kind, text with
  | .bool, none => some (.bool true)
  | .bool, some text =>
    if text = "true" then some (.bool true) else if text = "false" then some (.bool false) else none
  | .int, some text => (Decimal.readI64 text).toOption.map .int
  | .string, some text => some (.string text)
  | _, none => none

/-- A value is read from the text that writes it. -/
theorem reading_toText {d : ArgDefinition} {v : ArgValue} (hk : v.kind = d.kind)
    (hv : v.Representable) : d.reading (some v.toText) = some v := by
  unfold reading
  rw [← hk]
  cases v with
  | bool b => cases b <;> rfl
  | int i =>
    simp only [ArgValue.kind, ArgValue.toText, Decimal.readI64_toString hv.1 hv.2]
    rfl
  | string s => rfl

theorem kind_of_reading {d : ArgDefinition} {text : Option String} {v : ArgValue}
    (h : d.reading text = some v) : v.kind = d.kind := by
  unfold reading at h
  split at h
  · rename_i hk; cases h; exact hk.symm
  · rename_i hk
    split at h
    · cases h; exact hk.symm
    · split at h <;> cases h
      exact hk.symm
  · rename_i hk
    obtain ⟨i, -, rfl⟩ := Option.map_eq_some_iff.1 h
    exact hk.symm
  · rename_i hk; cases h; exact hk.symm
  · cases h

end ArgDefinition

/-! ## Sets of arguments -/

namespace ArgSet

variable {s s' : ArgSet} {args values : List Arg} {a : Arg} {name : String}

/-- The value of the first argument of a name. -/
def valueOf (values : List Arg) (name : String) : Option ArgValue :=
  (values.find? (·.name == name)).map (·.value)

theorem names_assign : ∀ values : List Arg, (assign a values).map (·.name) = values.map (·.name)
  | [] => rfl
  | b :: rest => by
    unfold assign
    split
    · rfl
    · simp [names_assign rest]

theorem valueOf_assign : ∀ values : List Arg, valueOf (assign a values) name =
    if name = a.name then (valueOf values name).map fun _ => a.value else valueOf values name
  | [] => by simp [assign, valueOf]
  | b :: rest => by
    have ih := valueOf_assign rest
    simp only [valueOf] at ih ⊢
    unfold assign
    by_cases hb : b.name = a.name
    · by_cases hname : name = a.name
      · simp [hb, hname]
      · have : ¬ a.name = name := fun e => hname e.symm
        simp [hb, hname, this]
    · by_cases hname : b.name = name
      · have : ¬ name = a.name := fun e => hb (hname.trans e)
        simp [hname, this]
      · simp [hb, hname, ih]

def assignAll (values args : List Arg) : List Arg :=
  args.foldl (fun values a => assign a values) values

theorem names_assignAll : ∀ (args values : List Arg),
    (assignAll values args).map (·.name) = values.map (·.name)
  | [], _ => rfl
  | a :: args, values => (names_assignAll args (assign a values)).trans (names_assign values)

/-- A name that is given once has the value given, and one that is not given keeps its own. -/
theorem valueOf_assignAll : ∀ {args values : List Arg}, (args.map (·.name)).Nodup →
    (∀ a ∈ args, a.name ∈ values.map (·.name)) → ∀ name,
      valueOf (assignAll values args) name = (valueOf args name).or (valueOf values name)
  | [], _, _, _, _ => by simp [assignAll, valueOf]
  | a :: args, values, hn, hmem, name => by
    obtain ⟨hnew, hn⟩ := List.nodup_cons.1 hn
    obtain ⟨ha, hmem⟩ := List.forall_mem_cons.1 hmem
    have hstill : ∀ b ∈ args, b.name ∈ (assign a values).map (·.name) := by rwa [names_assign]
    have ih := valueOf_assignAll hn hstill name
    have hstep : assignAll values (a :: args) = assignAll (assign a values) args := rfl
    rw [hstep, ih, valueOf_assign]
    by_cases hname : name = a.name
    · have hrest : valueOf args name = none := by
        simp only [valueOf, Option.map_eq_none_iff, List.find?_eq_none]
        intro b hb heq
        exact hnew (List.mem_map.2 ⟨b, hb, by simpa [hname] using heq⟩)
      obtain ⟨b, hb, hba⟩ := List.mem_map.1 ha
      have hsome : (valueOf values name).isSome := by
        simp only [valueOf, Option.isSome_map, List.find?_isSome]
        exact ⟨b, hb, by simp [hba, hname]⟩
      obtain ⟨v, hv⟩ := Option.isSome_iff_exists.1 hsome
      have hhead : valueOf (a :: args) name = some a.value := by simp [valueOf, hname]
      rw [hrest, hhead, hv, if_pos hname]
      rfl
    · have hhead : valueOf (a :: args) name = valueOf args name := by
        have : ¬ a.name = name := fun e => hname e.symm
        simp [valueOf, this]
      rw [hhead, if_neg hname]

/-- Of definitions of distinct names each is found by its own. -/
theorem find?_definition : ∀ {defs : List ArgDefinition}, (defs.map (·.name)).Nodup →
    ∀ {d : ArgDefinition}, d ∈ defs → defs.find? (·.name == d.name) = some d
  | c :: defs, hn, d, hd => by
    obtain ⟨hnew, hn⟩ := List.nodup_cons.1 hn
    rcases List.mem_cons.1 hd with rfl | hd
    · simp
    · have hne : ¬ c.name = d.name := fun e => hnew (List.mem_map.2 ⟨d, hd, e.symm⟩)
      simpa [hne] using find?_definition hn hd

theorem check_eq_ok (hn : (s.definitions.map (·.name)).Nodup) {d : ArgDefinition}
    (hd : d ∈ s.definitions) (hname : a.name = d.name) (hk : a.value.kind = d.kind) :
    s.check a = .ok () := by
  have hfind : s.definitions.find? (·.name == a.name) = some d := hname ▸ find?_definition hn hd
  simp [check, hfind, hk]

theorem configure_eq_ok : s.configure args = .ok s' ↔ (∀ a ∈ args, s.check a = .ok ()) ∧
    s.refuses args = none ∧ { s with current := assignAll s.current args } = s' := by
  unfold configure
  rw [bind_eq_ok]
  constructor
  · rintro ⟨⟨⟩, hchecks, h⟩
    refine ⟨forM_eq_ok.1 hchecks, ?_⟩
    cases hr : s.refuses args with
    | none => rw [hr] at h; cases h; exact ⟨rfl, rfl⟩
    | some err => rw [hr] at h; cases h
  · rintro ⟨hchecks, hr, rfl⟩
    refine ⟨⟨⟩, forM_eq_ok.2 hchecks, ?_⟩
    rw [hr]
    rfl

end ArgSet
end MysqlMetrics
