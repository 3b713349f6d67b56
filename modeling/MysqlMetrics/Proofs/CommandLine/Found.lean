import MysqlMetrics.Proofs.CommandLine.Given
/-!
# What a flag is found to be

An option has the value of the text that it stands with, wherever it stands (`parse_option`), and of
two switches that override each other the last one counts (`parse_switches`). What is noted for
other flags changes nothing about them (`get?_note_of_ne`), and what the command line leaves open is
filled in afterwards without touching what it has said.
-/
namespace MysqlMetrics.CommandLine

variable {flags : List Flag} {argv : List String} {occs : List Occurrence} {found found' : Matches}
  {flag on off : Flag} {reader : Reader} {lenient : Bool} {text : Option String}

/-! ## Noting one flag -/

theorem get?_append_one (found : Matches) (name : String) (v : Value) (id : String) :
    Matches.get? (found ++ [(name, v)]) id =
      (found.get? id).or (if id = name then some v else none) := by
  simp only [Matches.get?, List.find?_append, Option.map_or]
  by_cases h : id = name
  · simp [h]
  · have : ¬ name = id := fun e => h e.symm
    simp [h, this]

theorem get?_remove (found : Matches) (name id : String) :
    (found.remove name).get? id = if id = name then none else found.get? id := by
  simp only [Matches.get?, Matches.remove, List.find?_filter]
  by_cases h : id = name
  · subst h
    simp
  · rw [if_neg h]
    congr 2
    funext p
    by_cases hp : p.1 = id <;> simp [hp, h]

theorem get?_foldl_remove : ∀ (names : List String) (found : Matches) (id : String),
    (names.foldl Matches.remove found).get? id = if id ∈ names then none else found.get? id
  | [], _, _ => by simp
  | name :: names, found, id => by
    rw [List.foldl_cons, get?_foldl_remove, get?_remove]
    by_cases h : id = name <;> simp [h]

/-- A value is recorded for a flag that had none, and removes what the flag overrides. -/
theorem get?_record {v : Value} (h : record flags flag v found = .ok found') :
    found.get? flag.name = none ∧ ∀ id, found'.get? id =
      if id = flag.name then some v
      else if id ∈ overridden flags flag then none else found.get? id := by
  unfold record at h
  split at h
  · cases h
  rename_i hnone
  have hnone : found.get? flag.name = none := by simpa using hnone
  cases h
  refine ⟨hnone, fun id => ?_⟩
  rw [get?_append_one, get?_foldl_remove]
  by_cases hid : id = flag.name
  · subst hid
    simp [hnone]
  · simp [hid]

theorem get?_note_of_ne {o : Occurrence} {id : String} (h : o.note flags found = .ok found')
    (hid : o.flag.name ≠ id) (hov : id ∉ overridden flags o.flag) :
    found'.get? id = found.get? id := by
  have hne : ¬ id = o.flag.name := fun e => hid e.symm
  have hrecord : ∀ {v : Value}, record flags o.flag v found = .ok found' →
      found'.get? id = found.get? id := fun h => by
    rw [(get?_record h).2 id, if_neg hne, if_neg hov]
  cases o with
  | raised flag =>
    simp only [Occurrence.note] at h
    cases ha : flag.action with
    | help | version => simp [ha] at h
    | counter =>
      have hne : ¬ id = flag.name := hne
      simp only [ha] at h
      cases h
      rw [get?_append_one, get?_remove, if_neg hne, if_neg hne, Option.or_none]
    | switch | value => simp only [ha] at h; exact hrecord h
  | valued flag reader lenient text =>
    obtain ⟨v, -, h⟩ := bind_eq_ok.1 h
    exact hrecord h

/-! ## An option -/

/-- An option that is looked for on the command line only, and that no flag overrides. -/
structure Plain (flags : List Flag) (flag : Flag) (reader : Reader) (lenient : Bool) : Prop
    extends Sole flags flag where
  action : flag.action = .value reader lenient
  kept : ∀ f ∈ flags, f.action ≠ .switch (some flag.name)
  noVariable : flag.fromEnv = none
  noDefault : flag.default = none

theorem Plain.not_overridden (hp : Plain flags flag reader lenient) {f : Flag} (hf : f ∈ flags) :
    flag.name ∉ overridden flags f := by
  intro hmem
  rcases List.mem_append.1 hmem with hmem | hmem
  · split at hmem
    · rename_i other ha
      obtain rfl := List.mem_singleton.1 hmem
      exact hp.kept f hf ha
    · cases hmem
  · obtain ⟨g, hg, hname⟩ := List.mem_filterMap.1 hmem
    split at hname
    · rename_i other ha
      split at hname
      · cases hp.only g hg (Option.some.inj hname)
        cases ha.symm.trans hp.action
      · cases hname
    · cases hname

/-- What an option is found to be: at most one occurrence has been noted, and that decides. -/
theorem noteAll_option (hl : ∀ o ∈ occs, o.flag.name = flag.name →
      ∃ text, o = .valued flag reader lenient text)
    (hov : ∀ o ∈ occs, flag.name ∉ overridden flags o.flag)
    (h : noteAll flags occs found = .ok found') :
    (∀ v, found.get? flag.name = some v →
      (∀ text, .valued flag reader lenient text ∉ occs) ∧ found'.get? flag.name = some v) ∧
    (found.get? flag.name = none →
      (∀ text, .valued flag reader lenient text ∈ occs →
        ∃ v, readGiven reader lenient text = .ok v ∧ found'.get? flag.name = some v) ∧
      ((∀ text, .valued flag reader lenient text ∉ occs) → found'.get? flag.name = none)) := by
  induction occs generalizing found with
  | nil => cases h; simp
  | cons o occs ih =>
    obtain ⟨found₁, ho, h⟩ := bind_eq_ok.1 h
    obtain ⟨hsome, hnone⟩ := ih (fun o ho => hl o (.tail _ ho)) (fun o ho => hov o (.tail _ ho)) h
    by_cases hname : o.flag.name = flag.name
    · obtain ⟨text, rfl⟩ := hl o (.head _) hname
      obtain ⟨v, hread, hr⟩ := bind_eq_ok.1 ho
      obtain ⟨hbefore, hafter⟩ := get?_record hr
      have hv : found₁.get? flag.name = some v := by rw [hafter, if_pos rfl]
      obtain ⟨hno, hfound⟩ := hsome v hv
      refine ⟨fun w hw => by simp [hbefore] at hw,
        fun _ => ⟨fun text' hmem => ?_, fun hnever => ?_⟩⟩
      · rcases List.mem_cons.1 hmem with hmem | hmem
        · cases hmem; exact ⟨v, hread, hfound⟩
        · exact absurd hmem (hno text')
      · exact absurd (List.mem_cons_self) (hnever text)
    · have hsame := get?_note_of_ne ho hname (hov o (.head _))
      have hmem : ∀ text, .valued flag reader lenient text ∈ o :: occs ↔
          .valued flag reader lenient text ∈ occs := fun text => by
        refine ⟨fun hm => (List.mem_cons.1 hm).resolve_left ?_, .tail _⟩
        rintro rfl
        exact hname rfl
      simp only [hmem, ← hsame]
      exact ⟨hsome, hnone⟩

/-! ## Two switches -/

theorem Opposed.overridden (h : Opposed flags on off) : off.name ∈ overridden flags on := by
  simp [CommandLine.overridden, h.actionOn]

theorem Opposed.not_overridden (h : Opposed flags on off) {f : Flag} (hf : f ∈ flags)
    (hoff : f.name ≠ off.name) : on.name ∉ CommandLine.overridden flags f := by
  intro hmem
  rcases List.mem_append.1 hmem with hmem | hmem
  · split at hmem
    · rename_i other ha
      obtain rfl := List.mem_singleton.1 hmem
      exact hoff (congrArg Flag.name (h.keptOn f hf ha))
    · cases hmem
  · obtain ⟨g, hg, hname⟩ := List.mem_filterMap.1 hmem
    split at hname
    · rename_i other ha
      split at hname
      · rename_i hother
        cases h.soleOn.only g hg (Option.some.inj hname)
        cases ha.symm.trans h.actionOn
        exact hoff (beq_iff_eq.1 hother).symm
      · cases hname
    · cases hname

/-- At most one of two switches is found to be set. -/
def Stands (found : Matches) (on off : String) (last : Option Bool) : Prop :=
  found.get? on = (if last = some true then some (.bool true) else none) ∧
    found.get? off = (if last = some false then some (.bool true) else none)

/-- The switch that is noted stands, and the other does not. -/
theorem Opposed.stands_on (ho : Opposed flags on off)
    (h : (Occurrence.raised on).note flags found = .ok found') :
    Stands found' on.name off.name (some true) := by
  simp only [Occurrence.note, ho.actionOn] at h
  have hafter := (get?_record h).2
  constructor
  · simp [hafter]
  · simp [hafter, ho.apart.symm, ho.overridden]

theorem Opposed.noteAll (hop : Opposed flags on off)
    (hl : ∀ o ∈ occs, o.flag ∈ flags ∧ (o.flag.name = on.name → o = .raised on) ∧
      (o.flag.name = off.name → o = .raised off)) {last : Option Bool}
    (hst : Stands found on.name off.name last) (h : noteAll flags occs found = .ok found') :
    Stands found' on.name off.name
      ((lastOf on.name off.name (occs.map (·.flag.name))).or last) := by
  induction occs generalizing found last with
  | nil => cases h; exact hst
  | cons o occs ih =>
    obtain ⟨found₁, ho, hrest⟩ := bind_eq_ok.1 h
    obtain ⟨⟨hmem, hraised⟩, hlater⟩ := List.forall_mem_cons.1 hl
    rw [List.map_cons, lastOf_cons hop.apart, Option.or_assoc]
    by_cases hon : o.flag.name = on.name
    · obtain rfl := hraised.1 hon
      simpa using ih hlater (hop.stands_on ho) hrest
    · by_cases hoff : o.flag.name = off.name
      · obtain rfl := hraised.2 hoff
        have hstands := hop.symm.stands_on ho
        have hflip : Stands found₁ on.name off.name (some false) := by
          simpa [Stands, and_comm] using hstands
        simpa [hop.apart.symm] using ih hlater hflip hrest
      · have hkept : Stands found₁ on.name off.name last := by
          rw [Stands, get?_note_of_ne ho hon (hop.not_overridden hmem hoff),
            get?_note_of_ne ho hoff (hop.symm.not_overridden hmem hon)]
          exact hst
        simpa [hon, hoff] using ih hlater hkept hrest

/-! ## What is not on the command line -/

variable {source : Flag → Option (Except Refusal Value)} {id : String}

/-- A flag keeps its value, or has no source, or is given the value of its source. -/
theorem fill_cons {f : Flag} (h : fill source (f :: flags) found = .ok found') :
    ∃ found₁, fill source flags found₁ = .ok found' ∧
      (found₁ = found ∧ ((found.get? f.name).isSome ∨ source f = none) ∨
        ∃ v, found.get? f.name = none ∧ source f = some (.ok v) ∧
          found₁ = found ++ [(f.name, v)]) := by
  obtain ⟨found₁, hf, h⟩ := bind_eq_ok.1 h
  refine ⟨found₁, h, ?_⟩
  dsimp only at hf
  split at hf
  · rename_i hsome
    cases hf
    exact .inl ⟨rfl, .inl hsome⟩
  · rename_i hnone
    split at hf
    · rename_i hsource
      cases hf
      exact .inl ⟨rfl, .inr hsource⟩
    · rename_i value hsource
      obtain ⟨v, rfl, hf⟩ := bind_eq_ok.1 hf
      cases hf
      exact .inr ⟨v, by simpa using hnone, hsource, rfl⟩

theorem get?_fill_of_some {v : Value} : ∀ {flags : List Flag} {found : Matches},
    fill source flags found = .ok found' → found.get? id = some v → found'.get? id = some v
  | [], _, h, hv => by cases h; exact hv
  | f :: flags, found, h, hv => by
    obtain ⟨found₁, hf, ⟨rfl, -⟩ | ⟨w, -, -, rfl⟩⟩ := fill_cons h
    · exact get?_fill_of_some hf hv
    · exact get?_fill_of_some hf (by rw [get?_append_one, hv, Option.some_or])

/-- What no source has a value for stays without. -/
theorem get?_fill_of_none : ∀ {flags : List Flag} {found : Matches},
    fill source flags found = .ok found' → (∀ f ∈ flags, f.name = id → source f = none) →
      found.get? id = none → found'.get? id = none
  | [], _, h, _, hv => by cases h; exact hv
  | f :: flags, found, h, hsrc, hv => by
    have hrest : ∀ g ∈ flags, g.name = id → source g = none := fun g hg => hsrc g (.tail _ hg)
    obtain ⟨found₁, hf, ⟨rfl, -⟩ | ⟨w, -, hw, rfl⟩⟩ := fill_cons h
    · exact get?_fill_of_none hf hrest hv
    · have hne : ¬ id = f.name := fun e => by
        rw [hsrc f (.head _) e.symm] at hw
        cases hw
      exact get?_fill_of_none hf hrest (by rw [get?_append_one, hv, if_neg hne, Option.none_or])

/-- A flag without a value has the one of its source. -/
theorem get?_fill_of_source {v : Value} (hsrc : source flag = some (.ok v)) :
    ∀ {flags : List Flag} {found : Matches}, fill source flags found = .ok found' →
      (∀ f ∈ flags, f.name = flag.name → f = flag) → flag ∈ flags → found.get? flag.name = none →
        found'.get? flag.name = some v
  | f :: flags, found, h, honly, hmem, hv => by
    obtain ⟨found₁, hf, hcase⟩ := fill_cons h
    by_cases hname : f.name = flag.name
    · cases honly f (.head _) hname
      rcases hcase with ⟨-, hsome | hnone⟩ | ⟨w, -, hw, rfl⟩
      · simp [hv] at hsome
      · rw [hsrc] at hnone; cases hnone
      · cases hsrc.symm.trans hw
        exact get?_fill_of_some hf (by rw [get?_append_one, hv, if_pos rfl, Option.none_or])
    · have hmem : flag ∈ flags := (List.mem_cons.1 hmem).resolve_left fun e => hname (e ▸ rfl)
      have honly : ∀ g ∈ flags, g.name = flag.name → g = flag := fun g hg => honly g (.tail _ hg)
      have hne : ¬ flag.name = f.name := fun e => hname e.symm
      rcases hcase with ⟨rfl, -⟩ | ⟨w, -, -, rfl⟩
      · exact get?_fill_of_source hsrc hf honly hmem hv
      · exact get?_fill_of_source hsrc hf honly hmem
          (by rw [get?_append_one, hv, if_neg hne, Option.none_or])

/-! ## What the whole of it comes to -/

variable {command : Command} {env : Environment} {m : Matches}

/-- A command line that is accepted is a line, and what it does not say comes from the sources. -/
theorem parse_eq_ok (h : parse command env argv = .ok m) : ∃ occs found found',
    Line command.allFlags argv occs ∧ noteAll command.allFlags occs [] = .ok found ∧
      fill (Flag.fromVariable env) command.allFlags found = .ok found' ∧
        fill Flag.standing command.allFlags found' = .ok m := by
  obtain ⟨s, hread, h⟩ := bind_eq_ok.1 h
  obtain ⟨s', hsettle, h⟩ := bind_eq_ok.1 h
  obtain ⟨found', henv, h⟩ := bind_eq_ok.1 h
  obtain ⟨occs, hl, hn⟩ := exists_line hread hsettle
  exact ⟨occs, s'.found, found', hl, hn, henv, h⟩

/-- **An option has the value of its text, wherever it is given.** It has none if it is not given,
or cannot be. -/
theorem parse_option (hp : Plain command.allFlags flag reader lenient)
    (h : parse command env argv = .ok m) :
    (Nameable flag.name → ∀ text, Gives flag.name argv text →
      ∃ v, readGiven reader lenient text = .ok v ∧ m.get? flag.name = some v) ∧
    ('=' ∈ flag.name.toList ∨ (∀ text, ¬ Gives flag.name argv text) → m.get? flag.name = none) := by
  obtain ⟨occs, found, found', hl, hn, henv, hstanding⟩ := parse_eq_ok h
  have hocc : ∀ o ∈ occs, o.flag.name = flag.name →
      ∃ text, o = .valued flag reader lenient text := by
    intro o ho hname
    obtain ⟨hflag, hproper⟩ := hl.proper_of_name hp.toSole ho hname
    cases o with
    | raised f =>
      obtain rfl : f = flag := hflag
      exact absurd hp.action (hproper.2 reader lenient)
    | valued f reader' lenient' text =>
      obtain rfl : f = flag := hflag
      cases hproper.2.symm.trans hp.action
      exact ⟨text, rfl⟩
  obtain ⟨hgiven, hnot⟩ := (noteAll_option hocc
    (fun o ho => hp.not_overridden (hl.proper ho).1) hn).2 rfl
  have hsource : ∀ f ∈ command.allFlags, f.name = flag.name → f.fromVariable env = none ∧
      f.standing = none := fun f hf hname => by
    cases hp.only f hf hname
    simp [Flag.fromVariable, Flag.standing, hp.action, hp.noVariable, hp.noDefault]
  refine ⟨fun hname text hg => ?_, fun hno => ?_⟩
  · obtain ⟨v, hread, hv⟩ := hgiven text (hl.valued_of_gives hp.toSole hp.action hname hg)
    exact ⟨v, hread, get?_fill_of_some hstanding (get?_fill_of_some henv hv)⟩
  · have hnever : ∀ text, .valued flag reader lenient text ∉ occs := fun text hmem => by
      rcases hno with hequals | hno
      · exact ((hl.proper hmem).2 hp.noLetter).1.2 hequals
      · exact hno text (hl.gives_of_valued hmem)
    refine get?_fill_of_none hstanding (fun f hf hname => (hsource f hf hname).2) ?_
    exact get?_fill_of_none henv (fun f hf hname => (hsource f hf hname).1) (hnot hnever)

/-- What a switch is found to be in the end, if it is known where it stands. -/
theorem isSet_of_stands (hs : Sole command.allFlags flag) {other : Option String}
    (ha : flag.action = .switch other) {found found' : Matches} {set : Bool}
    (hv : found.get? flag.name = if set then some (.bool true) else none)
    (henv : fill (Flag.fromVariable env) command.allFlags found = .ok found')
    (hstanding : fill Flag.standing command.allFlags found' = .ok m) : m.isSet flag.name = set := by
  have hsource : ∀ f ∈ command.allFlags, f.name = flag.name → f.fromVariable env = none :=
    fun f hf hname => by
      cases hs.only f hf hname
      simp [Flag.fromVariable, ha]
  cases set with
  | true =>
    have := get?_fill_of_some hstanding (get?_fill_of_some henv hv)
    simp [Matches.isSet, Matches.bool?, this]
  | false =>
    have hoff : flag.standing = some (.ok (.bool false)) := by simp [Flag.standing, ha]
    have := get?_fill_of_source hoff hstanding hs.only hs.mem (get?_fill_of_none henv hsource hv)
    simp [Matches.isSet, Matches.bool?, this]

/-- **Of two switches that override each other the last one counts.** -/
theorem parse_switches (hop : Opposed command.allFlags on off)
    (h : parse command env argv = .ok m) :
    m.isSet on.name = (lastOf (long on.name) (long off.name) argv == some true) ∧
      m.isSet off.name = (lastOf (long on.name) (long off.name) argv == some false) := by
  obtain ⟨occs, found, found', hl, hn, henv, hstanding⟩ := parse_eq_ok h
  have hraised : ∀ {f other : Flag}, Sole command.allFlags f →
      f.action = .switch (some other.name) →
      ∀ o ∈ occs, o.flag.name = f.name → o = .raised f := by
    intro f other hs ha o ho hname
    obtain ⟨hflag, hproper⟩ := hl.proper_of_name hs ho hname
    cases o with
    | raised g => exact congrArg _ hflag
    | valued g reader lenient text =>
      obtain rfl : g = f := hflag
      cases hproper.2.symm.trans ha
  have hstart : Stands [] on.name off.name none := ⟨rfl, rfl⟩
  obtain ⟨hstandsOn, hstandsOff⟩ := hop.noteAll (fun o ho => ⟨(hl.proper ho).1,
    hraised hop.soleOn hop.actionOn o ho, hraised hop.soleOff hop.actionOff o ho⟩) hstart hn
  rw [Option.or_none, ← hl.lastOf_eq hop] at hstandsOn hstandsOff
  exact ⟨isSet_of_stands hop.soleOn hop.actionOn (by simpa using hstandsOn) henv hstanding,
    isSet_of_stands hop.soleOff hop.actionOff (by simpa using hstandsOff) henv hstanding⟩

end MysqlMetrics.CommandLine
