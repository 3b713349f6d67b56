import MysqlMetrics.Proofs.Argument
/-!
# Calls that configure arguments

A set of arguments is configured again and again, and a call may fail. Definitions may share a name:
then the first of them is meant, for the kind and for the value alike. So what a call does can be
told position by position (`getElem?_assignAll`): the first entry of a name takes the value that the
call gives last to that name, and every other entry stays. All else that holds of a sequence of
calls follows (`afterCalls_configured`).
-/
namespace MysqlMetrics.ArgSet

variable {s s' : ArgSet} {args values : List Arg} {a v : Arg} {e : ArgError}
  {defs : List ArgDefinition}
  {name : String} {i : Nat}

/-! ## What speaks against an argument -/

/-- What speaks against an argument: that no definition has its name, or that the first one that has
it is of another kind. -/
inductive Refutes (scraper : String) (defs : List ArgDefinition) (a : Arg) : ArgError → Prop
  | unknown (h : ∀ d ∈ defs, d.name ≠ a.name) : Refutes scraper defs a (.unknown scraper a.name)
  | kind {pre post : List ArgDefinition} {d : ArgDefinition} (hd : defs = pre ++ d :: post)
    (hfirst : ∀ c ∈ pre, c.name ≠ a.name) (hname : d.name = a.name) (hk : d.kind ≠ a.value.kind) :
    Refutes scraper defs a (.wrongKind scraper a.name d.kind a.value.toText)

/-- The first definition of a name is the one that is found. -/
theorem find?_eq_some_first {d : ArgDefinition} : defs.find? (·.name == name) = some d ↔
    ∃ pre post, defs = pre ++ d :: post ∧ (∀ c ∈ pre, c.name ≠ name) ∧ d.name = name := by
  rw [List.find?_eq_some_iff_append]
  constructor
  · rintro ⟨hname, pre, post, rfl, hpre⟩
    exact ⟨pre, post, rfl, fun c hc => by simpa using hpre c hc, by simpa using hname⟩
  · rintro ⟨pre, post, rfl, hpre, hname⟩
    exact ⟨by simpa using hname, pre, post, rfl, fun c hc => by simpa using hpre c hc⟩

theorem check_eq_error : s.check a = .error e ↔ Refutes s.scraper s.definitions a e := by
  unfold check
  constructor
  · intro h
    split at h
    · rename_i hf
      cases h
      exact .unknown fun d hd => by simpa using List.find?_eq_none.1 hf d hd
    · rename_i d hf
      obtain ⟨pre, post, hd, hfirst, hname⟩ := find?_eq_some_first.1 hf
      split at h
      · cases h
      · rename_i hk
        cases h
        exact .kind hd hfirst hname hk
  · rintro (hnone | ⟨hd, hfirst, hname, hk⟩)
    · have hf : s.definitions.find? (·.name == a.name) = none :=
        List.find?_eq_none.2 fun d hd => by simpa using hnone d hd
      rw [hf]
    · rw [find?_eq_some_first.2 ⟨_, _, hd, hfirst, hname⟩]
      simp [hk]

theorem check_eq_ok_iff : s.check a = .ok () ↔ ∀ e, ¬ Refutes s.scraper s.definitions a e := by
  simp only [← check_eq_error]
  cases s.check a <;> simp

/-- A call fails by the first argument that something speaks against. -/
theorem configure_eq_error (hr : s.refuses args = none) : s.configure args = .error e ↔
    ∃ pre a post, args = pre ++ a :: post ∧
      (∀ b ∈ pre, ∀ e', ¬ Refutes s.scraper s.definitions b e') ∧
        Refutes s.scraper s.definitions a e := by
  have hforM : s.configure args = .error e ↔ args.forM s.check = .error e := by
    unfold configure
    cases args.forM s.check with
    | error e' => simp [bind, Except.bind]
    | ok u => simp [bind, Except.bind, hr]
  rw [hforM, forM_eq_error]
  simp only [check_eq_error, check_eq_ok_iff]

/-! ## What a call does to the entries -/

/-- An entry that stands at a position is the first of its name if no name before it is the same. -/
def IsFirst (values : List Arg) (i : Nat) (name : String) : Prop :=
  name ∉ (values.take i).map (·.name)

instance : Decidable (IsFirst values i name) := inferInstanceAs (Decidable (¬ _))

theorem isFirst_of_names {values' : List Arg} (h : values'.map (·.name) = values.map (·.name)) :
    IsFirst values' i name ↔ IsFirst values i name := by
  unfold IsFirst
  rw [List.map_take, List.map_take, h]

theorem getElem?_assign : (assign a values)[i]? = values[i]?.map fun v =>
    if v.name = a.name ∧ IsFirst values i v.name then { v with value := a.value } else v := by
  induction values generalizing i with
  | nil => rfl
  | cons b rest ih =>
    unfold assign
    cases i with
    | zero => by_cases hb : b.name = a.name <;> simp [hb, IsFirst]
    | succ i =>
      by_cases hb : b.name = a.name
      · -- the entry before is of that name, so this one is not the first
        have hnot : ∀ v : Arg, ¬ (v.name = a.name ∧ IsFirst (b :: rest) (i + 1) v.name) := by
          rintro v ⟨hv, hfirst⟩
          exact hfirst (by simp [hb, hv])
        simp [hb, hnot]
      · have hfirst : ∀ v : Arg, v.name = a.name →
            (IsFirst (b :: rest) (i + 1) v.name ↔ IsFirst rest i v.name) := fun v hv => by
          have : ¬ v.name = b.name := fun h => hb (h.symm.trans hv)
          simp [IsFirst, this]
        simp only [hb, if_false, List.getElem?_cons_succ, ih]
        congr 1
        funext v
        by_cases hv : v.name = a.name
        · simp only [hfirst v hv]
        · simp [hv]

/-- The value of an entry after a call: the one that is given last to its name, if it is the first
of the name, and its own otherwise. -/
def valueAfter (values args : List Arg) (i : Nat) (v : Arg) : ArgValue :=
  if IsFirst values i v.name then (valueOf args.reverse v.name).getD v.value else v.value

/-- What is given last to a name is given by the last argument, or before it. -/
theorem valueOf_reverse_cons : valueOf (a :: args).reverse name =
    (valueOf args.reverse name).or (if a.name = name then some a.value else none) := by
  unfold valueOf
  rw [List.reverse_cons, List.find?_append]
  by_cases hname : a.name = name <;> cases args.reverse.find? (·.name == name) <;> simp [hname]

theorem getElem?_assignAll : ∀ (args values : List Arg), (assignAll values args)[i]? =
    values[i]?.map fun v => ⟨v.name, valueAfter values args i v⟩
  | [], values => by
    have : ∀ v : Arg, (⟨v.name, valueAfter values [] i v⟩ : Arg) = v := fun v => by
      simp [valueAfter, valueOf]
    simp [assignAll, this]
  | a :: args, values => by
    have hstep : assignAll values (a :: args) = assignAll (assign a values) args := rfl
    rw [hstep, getElem?_assignAll args (assign a values), getElem?_assign, Option.map_map]
    congr 1
    funext v
    unfold valueAfter
    simp only [Function.comp_apply, isFirst_of_names (names_assign values), valueOf_reverse_cons]
    by_cases hfirst : IsFirst values i v.name
    · by_cases hname : v.name = a.name
      · cases valueOf args.reverse a.name <;> simp [hname, hname ▸ hfirst]
      · have : ¬ a.name = v.name := fun h => hname h.symm
        simp [hname, hfirst, this]
    · simp [hfirst]

theorem assignAll_append (values args args' : List Arg) :
    assignAll values (args ++ args') = assignAll (assignAll values args) args' :=
  List.foldl_append

/-- The first entry of a name becomes the argument that is the last of the name. -/
theorem getElem?_assignAll_given {pre post : List Arg} (hv : values[i]? = some v)
    (hfirst : IsFirst values i v.name) (hname : a.name = v.name)
    (hpost : ∀ b ∈ post, b.name ≠ v.name) :
    (assignAll values (pre ++ a :: post))[i]? = some a := by
  have hlast : valueOf (pre ++ a :: post).reverse v.name = some a.value := by
    have hnone : post.reverse.find? (·.name == v.name) = none :=
      List.find?_eq_none.2 fun b hb => by simpa using hpost b (List.mem_reverse.1 hb)
    simp [valueOf, List.find?_append, hnone, hname]
  have hgiven : valueAfter values (pre ++ a :: post) i v = a.value := by
    rw [valueAfter, if_pos hfirst, hlast, Option.getD_some]
  rw [getElem?_assignAll, hv, Option.map_some, hgiven, ← hname]

theorem getElem?_assignAll_other (hv : values[i]? = some v)
    (h : IsFirst values i v.name → ∀ a ∈ args, a.name ≠ v.name) :
    (assignAll values args)[i]? = some v := by
  have hsame : valueAfter values args i v = v.value := by
    unfold valueAfter
    split
    · rename_i hfirst
      have hnone : args.reverse.find? (·.name == v.name) = none :=
        List.find?_eq_none.2 fun a ha => by simpa using h hfirst a (List.mem_reverse.1 ha)
      simp [valueOf, hnone]
    · rfl
  rw [getElem?_assignAll, hv, Option.map_some, hsame]

/-- Giving the same again changes nothing. -/
theorem assignAll_assignAll (values args : List Arg) :
    assignAll (assignAll values args) args = assignAll values args := by
  refine List.ext_getElem? fun i => ?_
  simp only [getElem?_assignAll, Option.map_map]
  congr 1
  funext v
  simp only [Function.comp_apply, valueAfter, isFirst_of_names (names_assignAll args values)]
  by_cases hfirst : IsFirst values i v.name
  · cases valueOf args.reverse v.name <;> simp [hfirst]
  · simp [hfirst]

/-! ## Calls -/

/-- A call as its caller sees it: whether it succeeds, and the set that it leaves. -/
def call (s : ArgSet) (args : List Arg) : Except ArgError Unit × ArgSet :=
  match s.configure args with
  | .ok s' => (.ok (), s')
  | .error e => (.error e, s)

/-- The set that calls leave, one after the other. -/
def afterCalls (s : ArgSet) (calls : List (List Arg)) : ArgSet :=
  calls.foldl (fun s args => (s.call args).2) s

/-- A set for some definitions: an entry for each in their order, the first of each name of the kind
that is defined. It refuses nothing on grounds of its own. -/
structure Lawful (scraper : String) (defs : List ArgDefinition) (s : ArgSet) : Prop where
  scraper : s.scraper = scraper
  definitions : s.definitions = defs
  refuses : ∀ args, s.refuses args = none
  names : s.current.map (·.name) = defs.map (·.name)
  kinds : ∀ (i : Nat) (d : ArgDefinition) (v : Arg), defs[i]? = some d → s.current[i]? = some v →
    IsFirst s.current i v.name → v.value.kind = d.kind

variable {scraper : String} {calls : List (List Arg)}

theorem lawful_new : Lawful scraper defs (.new scraper defs) where
  scraper := rfl
  definitions := rfl
  refuses _ := rfl
  names := by simp [new, ArgDefinition.defaults]
  kinds i d v hd hv _ := by
    have : v = ⟨d.name, d.default⟩ := by simpa [new, ArgDefinition.defaults, hd, eq_comm] using hv
    rw [this]
    rfl

theorem Lawful.find?_of_isFirst (hs : Lawful scraper defs s) {d : ArgDefinition}
    (hd : defs[i]? = some d) (hv : s.current[i]? = some v) (hfirst : IsFirst s.current i v.name) :
    defs.find? (·.name == v.name) = some d := by
  obtain ⟨hi, rfl⟩ := List.getElem?_eq_some_iff.1 hd
  have hname : v.name = defs[i].name := by
    have h : (s.current.map (·.name))[i]? = (defs.map (·.name))[i]? := by rw [hs.names]
    simpa [hv, hd] using h
  refine find?_eq_some_first.2 ⟨defs.take i, defs.drop (i + 1), ?_, fun c hc h => ?_, hname.symm⟩
  · rw [List.getElem_cons_drop, List.take_append_drop]
  · refine hfirst ?_
    rw [List.map_take, hs.names, ← List.map_take]
    exact List.mem_map.2 ⟨c, hc, h⟩

/-- What a call leaves is as lawful as before: what is given to a name is of the kind of its first
definition. -/
theorem Lawful.call (hs : Lawful scraper defs s) (args : List Arg) :
    Lawful scraper defs (s.call args).2 := by
  unfold ArgSet.call
  split
  · rename_i s' hok
    obtain ⟨hchecks, -, rfl⟩ := configure_eq_ok.1 hok
    have hnames := names_assignAll args s.current
    refine ⟨hs.scraper, hs.definitions, hs.refuses, hnames.trans hs.names,
      fun i d w hd hw hfirst => ?_⟩
    obtain ⟨v, hv, rfl⟩ : ∃ v, s.current[i]? = some v ∧
        ⟨v.name, valueAfter s.current args i v⟩ = w := by
      simpa [getElem?_assignAll, Option.map_eq_some_iff] using hw
    have hfirst : IsFirst s.current i v.name := (isFirst_of_names hnames).1 hfirst
    simp only [valueAfter, hfirst, if_true]
    cases hgiven : valueOf args.reverse v.name with
    | none => exact hs.kinds i d v hd hv hfirst
    | some x =>
      obtain ⟨a, ha, rfl⟩ := Option.map_eq_some_iff.1 hgiven
      have hname : a.name = v.name := by simpa using List.find?_some ha
      have hcheck := hchecks a (List.mem_reverse.1 (List.mem_of_find?_eq_some ha))
      rw [check, hs.definitions, hname, hs.find?_of_isFirst hd hv hfirst] at hcheck
      by_contra hk
      simp [eq_comm (a := d.kind), show ¬ a.value.kind = d.kind from hk] at hcheck
  · exact hs

theorem lawful_afterCalls (scraper : String) (defs : List ArgDefinition) (calls : List (List Arg)) :
    Lawful scraper defs (afterCalls (.new scraper defs) calls) :=
  List.foldlRecOn calls _ (motive := Lawful scraper defs) lawful_new fun _ hs args _ => hs.call args

theorem call_of_ok (h : s.configure args = .ok s') : s.call args = (.ok (), s') := by
  rw [ArgSet.call, h]

theorem call_of_error (h : s.configure args = .error e) : s.call args = (.error e, s) := by
  rw [ArgSet.call, h]

theorem call_eq_ok : (s.call args).1 = .ok () ↔ s.configure args = .ok (s.call args).2 := by
  cases h : s.configure args with
  | ok s' => simp [call_of_ok h]
  | error e => simp [call_of_error h]

theorem call_eq_error : (s.call args).1 = .error e ↔ s.configure args = .error e := by
  cases h : s.configure args with
  | ok s' => simp [call_of_ok h]
  | error e' => simp [call_of_error h]

theorem Lawful.call_eq_error (hs : Lawful scraper defs s) : (s.call args).1 = .error e ↔
    ∃ pre a post, args = pre ++ a :: post ∧ (∀ b ∈ pre, ∀ e', ¬ Refutes scraper defs b e') ∧
      Refutes scraper defs a e := by
  rw [ArgSet.call_eq_error, configure_eq_error (hs.refuses args), hs.scraper, hs.definitions]

/-- If anything speaks against an argument, the call fails. -/
theorem Lawful.exists_call_eq_error (hs : Lawful scraper defs s) (ha : a ∈ args)
    (he : Refutes scraper defs a e) : ∃ e', (s.call args).1 = .error e' := by
  cases hc : (s.call args).1 with
  | error e' => exact ⟨e', rfl⟩
  | ok u =>
    have hcheck := (configure_eq_ok.1 (call_eq_ok.1 hc)).1 a ha
    rw [check_eq_ok_iff, hs.scraper, hs.definitions] at hcheck
    exact absurd he (hcheck e)

/-- What two calls give one call may give, with what comes of the second. -/
theorem Lawful.configure_append (hs : Lawful scraper defs s) (h : s.configure args = .ok s')
    (b : List Arg) : s.configure (args ++ b) = s'.configure b := by
  obtain ⟨hchecks, -, rfl⟩ := configure_eq_ok.1 h
  have hrest : (args ++ b).forM s.check = b.forM s.check := by
    rw [List.forM_eq_forM, List.forM_append, ← List.forM_eq_forM, forM_eq_ok.2 hchecks]
    rfl
  unfold configure
  rw [hrest, hs.refuses, hs.refuses, List.foldl_append]
  rfl

theorem Lawful.configure_again (hs : Lawful scraper defs s) (h : s.configure args = .ok s') :
    s'.configure args = .ok s' := by
  have hchecks := (configure_eq_ok.1 h).1
  rw [← hs.configure_append h]
  obtain ⟨-, -, rfl⟩ := configure_eq_ok.1 h
  refine configure_eq_ok.2 ⟨fun a ha => ?_, hs.refuses _, ?_⟩
  · exact (List.mem_append.1 ha).elim (hchecks a) (hchecks a)
  · rw [assignAll_append, assignAll_assignAll]

/-- **Calls of a set of arguments.** Whatever was called before, there is one entry for each
definition, in their order and by their names, and the first entry of a name has the kind of its
definition. A call fails if and only if something speaks against an argument, says so of the first
such argument, and leaves the set as it was. Where it succeeds, the first entry of a name that is
given is the argument that gives it last, and every other entry stays; the same call again changes
nothing; and a further call does what one call of both would have done. -/
theorem afterCalls_configured (scraper : String) (defs : List ArgDefinition)
    (calls : List (List Arg)) :
    let s := afterCalls (.new scraper defs) calls
    s.current.map (·.name) = defs.map (·.name) ∧
    (∀ i d v, defs[i]? = some d → s.current[i]? = some v → IsFirst s.current i v.name →
      v.value.kind = d.kind) ∧
    ∀ args,
      ((∃ e, (s.call args).1 = .error e) ↔ ∃ a ∈ args, ∃ e, Refutes scraper defs a e) ∧
      (∀ e, (s.call args).1 = .error e →
        (∃ pre a post, args = pre ++ a :: post ∧ (∀ b ∈ pre, ∀ e', ¬ Refutes scraper defs b e') ∧
          Refutes scraper defs a e) ∧ (s.call args).2 = s) ∧
      ((s.call args).1 = .ok () →
        (∀ i v, s.current[i]? = some v →
          (IsFirst s.current i v.name → ∀ pre a post, args = pre ++ a :: post → a.name = v.name →
            (∀ b ∈ post, b.name ≠ v.name) → (s.call args).2.current[i]? = some a) ∧
          ((IsFirst s.current i v.name → ∀ a ∈ args, a.name ≠ v.name) →
            (s.call args).2.current[i]? = some v)) ∧
        (s.call args).2.call args = s.call args ∧
        ∀ b, (s.call (args ++ b)).1 = ((s.call args).2.call b).1 ∧
          (((s.call args).2.call b).1 = .ok () → s.call (args ++ b) = (s.call args).2.call b)) := by
  intro s
  have hs : Lawful scraper defs s := lawful_afterCalls scraper defs calls
  refine ⟨hs.names, hs.kinds, fun args =>
    ⟨⟨?_, ?_⟩, fun e he => ⟨hs.call_eq_error.1 he, ?_⟩, fun hok => ?_⟩⟩
  · rintro ⟨e, he⟩
    obtain ⟨pre, a, post, rfl, -, ha⟩ := hs.call_eq_error.1 he
    exact ⟨a, by simp, e, ha⟩
  · rintro ⟨a, ha, e, he⟩
    exact hs.exists_call_eq_error ha he
  · rw [call_of_error (ArgSet.call_eq_error.1 he)]
  · have hconf := call_eq_ok.1 hok
    have hcurrent : (s.call args).2.current = assignAll s.current args := by
      rw [← (configure_eq_ok.1 hconf).2.2]
    refine ⟨fun i v hv => ⟨?_, fun h => ?_⟩, ?_, fun b => ?_⟩
    · rintro hfirst pre a post rfl hname hpost
      rw [hcurrent]
      exact getElem?_assignAll_given hv hfirst hname hpost
    · rw [hcurrent]
      exact getElem?_assignAll_other hv h
    · rw [call_of_ok (hs.configure_again hconf), call_of_ok hconf]
    · have happend := hs.configure_append hconf b
      cases hb : (s.call args).2.configure b with
      | ok s' => simp [call_of_ok (happend.trans hb), call_of_ok hb]
      | error e => simp [call_of_error (happend.trans hb), call_of_error hb]

end MysqlMetrics.ArgSet
