import MysqlMetrics.Proofs.CommandLine.Found
import MysqlMetrics.Proofs.Registry.Entries
import MysqlMetrics.Startup.Flags
/-!
# A command line applied to a registry

A registry binds its flags to a command, a command line is read by it, and what was found is applied
to the registry. If no two flags share a name, each of them can be looked at by itself
(`plain_flagOfArg`, `exists_opposed`), and the registry does what the arguments say: `Obeyed` states
that in terms of the arguments alone, and `onParsed_obeyed` proves it for every command line that is
accepted. An argument of a scraper whose name has an equals sign is the exception: such a name is
registered, but no command line can give it.
-/
namespace MysqlMetrics

open SortedTable
open CommandLine
  (Flag Reader Matches Command Sole Plain Opposed Gives Nameable lastOf long longWith readGiven)

namespace Registry

variable {allowed : Scraper → Prop} {r r' : Registry} {e : RegistryEntry} {s : Scraper}
  {d : ArgDefinition} {name id : String} {own : Command} {m : Matches} {f : Flag}

/-! ## Bound flags -/

/-- A command to which the flags of a registry are bound. -/
def bindTo (r : Registry) (own : Command) : Command := { own with flags := own.flags ++ r.flags }

/-- The flags of the program are bound in this way. -/
theorem bindTo_globalFlags : r.bindTo ⟨Startup.globalFlags, true⟩ = Startup.command r.flags := rfl

/-- Flags that neither share a name with those of a registry nor override them. -/
structure Apart (flags : List Flag) (r : Registry) : Prop where
  names : ∀ f ∈ flags, f.name ∉ r.flags.map (·.name)
  overrides : ∀ f ∈ flags, ∀ id, f.action = .switch (some id) → id ∉ r.flags.map (·.name)

/-- A name of a flag begins in one of two ways. -/
theorem prefix_of_mem (h : id ∈ r.flags.map (·.name)) :
    "collect.".toList <+: id.toList ∨ "no-collect.".toList <+: id.toList := by
  rw [names_flags] at h
  obtain ⟨s, -, h⟩ := List.mem_flatMap.1 h
  have hon : ∀ n, "collect.".toList <+: (enableFlag n).toList :=
    fun n => ⟨n.toList, by simp [enableFlag]⟩
  simp only [flagNames, List.mem_cons, List.mem_map] at h
  rcases h with rfl | rfl | ⟨arg, -, rfl⟩
  · exact .inl (hon _)
  · exact .inr ⟨s.name.toList, by simp [disableFlag]⟩
  · exact .inl (argFlag_eq ▸ hon _)

/-- The program's own flags are apart from those of every registry. -/
theorem apart_globalFlags (r : Registry) : Apart Startup.globalFlags r := by
  have hnames : ∀ f ∈ Startup.globalFlags, ¬ ("collect.".toList <+: f.name.toList ∨
      "no-collect.".toList <+: f.name.toList) := by decide +kernel
  have hnone : ∀ f ∈ Startup.globalFlags, ∀ id, f.action ≠ .switch (some id) := by
    simp [Startup.globalFlags, Startup.setting]
  exact ⟨fun f hf h => hnames f hf (prefix_of_mem h), fun f hf id ha => absurd ha (hnone f hf id)⟩

theorem mem_allFlags (hf : f ∈ (r.bindTo own).allFlags) : f ∈ own.flags ∨ f ∈ r.flags ∨
    (f.name = "help" ∨ f.name = "version") ∧ ∀ id, f.action ≠ .switch (some id) := by
  simp only [Command.allFlags, bindTo, List.mem_append, List.mem_singleton] at hf
  rcases hf with ((hf | hf) | rfl) | hf
  · exact .inl hf
  · exact .inr (.inl hf)
  · exact .inr (.inr ⟨.inl rfl, by simp⟩)
  · by_cases hv : own.hasVersion = true
    · obtain rfl : f = { name := "version", short := some 'V', action := .version } := by
        simpa [hv] using hf
      exact .inr (.inr ⟨.inr rfl, by simp⟩)
    · simp [hv] at hf

theorem mem_allFlags_of_mem (hf : f ∈ r.flags) : f ∈ (r.bindTo own).allFlags := by
  simp [Command.allFlags, bindTo, hf]

/-- How an argument of a kind is read. -/
def readerOf : ArgKind → Reader
  | .bool => .bool
  | .int => .integer
  | .string => .text

theorem flagOfArg_eq (name : String) (d : ArgDefinition) :
    (flagOfArg name d).action = .value (readerOf d.kind) (d.kind == .bool) ∧
      (flagOfArg name d).short = none ∧ (flagOfArg name d).fromEnv = none ∧
        (flagOfArg name d).default = none := by
  unfold flagOfArg
  cases d.kind <;> exact ⟨rfl, rfl, rfl, rfl⟩

/-- The two switches of an entry, before the flags of its arguments. -/
theorem exists_flagsOf (e : RegistryEntry) : ∃ on off : Flag,
    flagsOf e = on :: off :: (declared e.scraper).map (flagOfArg e.scraper.name) ∧
      (on.name = enableFlag e.scraper.name ∧
        on.action = .switch (some (disableFlag e.scraper.name)) ∧ on.short = none) ∧
      (off.name = disableFlag e.scraper.name ∧
        off.action = .switch (some (enableFlag e.scraper.name)) ∧
        off.short = none) := ⟨_, _, rfl, ⟨rfl, rfl, rfl⟩, rfl, rfl, rfl⟩

theorem mem_flags : f ∈ r.flags ↔ ∃ e ∈ values r.entries, f ∈ flagsOf e := List.mem_flatMap

theorem flagOfArg_mem (he : e ∈ values r.entries) (hd : d ∈ declared e.scraper) :
    flagOfArg e.scraper.name d ∈ r.flags := by
  obtain ⟨on, off, hflags, -, -⟩ := exists_flagsOf e
  exact mem_flags.2 ⟨e, he, by simp [hflags, List.mem_map_of_mem hd]⟩

theorem short_of_mem (hf : f ∈ r.flags) : f.short = none := by
  obtain ⟨e, -, hf⟩ := mem_flags.1 hf
  obtain ⟨on, off, hflags, ⟨-, -, hon⟩, -, -, hoff⟩ := exists_flagsOf e
  rw [hflags] at hf
  rcases List.mem_cons.1 hf with rfl | hf
  · exact hon
  rcases List.mem_cons.1 hf with rfl | hf
  · exact hoff
  · obtain ⟨d, -, rfl⟩ := List.mem_map.1 hf
    exact (flagOfArg_eq e.scraper.name d).2.1

/-- A switch of a registry overrides the opposite one. -/
theorem switch_of_mem (hf : f ∈ r.flags) (ha : f.action = .switch (some id)) :
    ∃ e ∈ values r.entries, f.name = enableFlag e.scraper.name ∧ id = disableFlag e.scraper.name ∨
      f.name = disableFlag e.scraper.name ∧ id = enableFlag e.scraper.name := by
  obtain ⟨e, he, hf⟩ := mem_flags.1 hf
  obtain ⟨on, off, hflags, ⟨hon, hon', -⟩, hoff, hoff', -⟩ := exists_flagsOf e
  rw [hflags] at hf
  refine ⟨e, he, ?_⟩
  rcases List.mem_cons.1 hf with rfl | hf
  · cases hon'.symm.trans ha; exact .inl ⟨hon, rfl⟩
  rcases List.mem_cons.1 hf with rfl | hf
  · cases hoff'.symm.trans ha; exact .inr ⟨hoff, rfl⟩
  · obtain ⟨d, -, rfl⟩ := List.mem_map.1 hf
    cases (flagOfArg_eq e.scraper.name d).1.symm.trans ha

theorem IsName.no_equals {n : String} (h : IsName n) : '=' ∉ n.toList := fun hm =>
  absurd (h.2 _ hm) (by decide)

theorem nameable_enableFlag {n : String} (h : IsName n) : Nameable (enableFlag n) := by
  simp [Nameable, enableFlag, h.no_equals]

theorem nameable_disableFlag {n : String} (h : IsName n) : Nameable (disableFlag n) := by
  simp [Nameable, disableFlag, h.no_equals]

theorem equals_mem_argFlag {n arg : String} (h : IsName n) :
    '=' ∈ (argFlag n arg).toList ↔ '=' ∈ arg.toList := by
  simp [argFlag, h.no_equals]

theorem nameable_argFlag {n arg : String} (h : IsName n) :
    Nameable (argFlag n arg) ↔ '=' ∉ arg.toList := by
  rw [Nameable, equals_mem_argFlag h]
  simp [argFlag]

section

variable (hids : (r.flags.map (·.name)).Nodup) (hown : Apart own.flags r)

include hids hown

theorem sole_of_mem (hf : f ∈ r.flags) : Sole (r.bindTo own).allFlags f where
  mem := mem_allFlags_of_mem hf
  noLetter := short_of_mem hf
  only g hg hname := by
    have hmem : g.name ∈ r.flags.map (·.name) := hname ▸ List.mem_map_of_mem hf
    rcases mem_allFlags hg with hg | hg | ⟨hg | hg, -⟩
    · exact absurd hmem (hown.names g hg)
    · exact List.inj_on_of_nodup_map hids hg hf hname
    · exact absurd (hg ▸ prefix_of_mem hmem) (by decide)
    · exact absurd (hg ▸ prefix_of_mem hmem) (by decide)

omit hids in
theorem switch_of_mem_allFlags (hf : f ∈ (r.bindTo own).allFlags)
    (ha : f.action = .switch (some id)) (hid : id ∈ r.flags.map (·.name)) :
    ∃ e ∈ values r.entries, f.name = enableFlag e.scraper.name ∧ id = disableFlag e.scraper.name ∨
      f.name = disableFlag e.scraper.name ∧ id = enableFlag e.scraper.name := by
  rcases mem_allFlags hf with hf | hf | ⟨-, hno⟩
  · exact absurd hid (hown.overrides f hf id ha)
  · exact switch_of_mem hf ha
  · exact absurd ha (hno id)

/-- The flag of an argument has to do with no other. -/
theorem plain_flagOfArg (he : e ∈ values r.entries) (hd : d ∈ declared e.scraper) :
    Plain (r.bindTo own).allFlags (flagOfArg e.scraper.name d) (readerOf d.kind)
      (d.kind == .bool) := by
  have hmem := flagOfArg_mem he hd
  have hs := sole_of_mem hids hown hmem
  obtain ⟨haction, -, henv, hdefault⟩ := flagOfArg_eq e.scraper.name d
  refine ⟨hs, haction, fun f hf ha => ?_, henv, hdefault⟩
  obtain ⟨e', he', ⟨-, hname⟩ | ⟨-, hname⟩⟩ :=
    switch_of_mem_allFlags hown hf ha (List.mem_map_of_mem hmem)
  · rw [name_flagOfArg] at hname
    exact argFlag_ne_disableFlag hname
  · obtain ⟨on, off, hflags, ⟨hon, hon', -⟩, -⟩ := exists_flagsOf e'
    have hon_mem : on ∈ r.flags := mem_flags.2 ⟨e', he', by simp [hflags]⟩
    cases hs.only on (mem_allFlags_of_mem hon_mem) (hon.trans hname.symm)
    cases haction.symm.trans hon'

/-- The two switches of an entry have to do with each other only. -/
theorem exists_opposed (he : e ∈ values r.entries) (hname : IsName e.scraper.name) :
    ∃ on off : Flag, on.name = enableFlag e.scraper.name ∧ off.name = disableFlag e.scraper.name ∧
      Opposed (r.bindTo own).allFlags on off := by
  obtain ⟨on, off, hflags, ⟨hon, hon', -⟩, hoff, hoff', -⟩ := exists_flagsOf e
  have hon_mem : on ∈ r.flags := mem_flags.2 ⟨e, he, by simp [hflags]⟩
  have hoff_mem : off ∈ r.flags := mem_flags.2 ⟨e, he, by simp [hflags]⟩
  have hsoleOn := sole_of_mem hids hown hon_mem
  have hsoleOff := sole_of_mem hids hown hoff_mem
  refine ⟨on, off, hon, hoff, hsoleOn, hsoleOff, hoff ▸ hon', hon ▸ hoff', fun f hf ha => ?_,
    fun f hf ha => ?_, ?_, hon ▸ nameable_enableFlag hname, hoff ▸ nameable_disableFlag hname⟩
  · obtain ⟨e', -, ⟨-, hid⟩ | ⟨hf', hid⟩⟩ :=
      switch_of_mem_allFlags hown hf ha (List.mem_map_of_mem hon_mem)
    · exact absurd (hon ▸ hid) enableFlag_ne_disableFlag
    · rw [hon, enableFlag_inj] at hid
      exact hsoleOff.only f hf (by rw [hf', hoff, hid])
  · obtain ⟨e', -, ⟨hf', hid⟩ | ⟨-, hid⟩⟩ :=
      switch_of_mem_allFlags hown hf ha (List.mem_map_of_mem hoff_mem)
    · rw [hoff, disableFlag_inj] at hid
      exact hsoleOn.only f hf (by rw [hf', hon, hid])
    · exact absurd (hoff ▸ hid).symm enableFlag_ne_disableFlag
  · rw [hon, hoff]
    exact enableFlag_ne_disableFlag

end

/-! ## Values found -/

theorem argFound_of_none (h : m.get? (argFlag name d.name) = none) : argFound m name d = none := by
  unfold argFound
  cases d.kind <;> simp [Matches.bool?, Matches.int?, Matches.text?, h]

/-- What an argument is given with is found as a value of its kind. -/
theorem argFound_of_given {text : Option String} {v : CommandLine.Value}
    (hread : readGiven (readerOf d.kind) (d.kind == .bool) text = .ok v)
    (h : m.get? (argFlag name d.name) = some v) :
    ∃ value, d.reading text = some value ∧ argFound m name d = some ⟨d.name, value⟩ := by
  cases hk : d.kind with
  | bool =>
    rw [hk] at hread
    cases text with
    | none =>
      cases hread
      exact ⟨.bool true, by simp [ArgDefinition.reading, hk],
        by simp [argFound, hk, Matches.bool?, h]⟩
    | some text =>
      simp only [readGiven, readerOf, Reader.read] at hread
      by_cases htrue : text = "true"
      · simp only [htrue, beq_self_eq_true, if_true] at hread
        cases hread
        exact ⟨.bool true, by simp [ArgDefinition.reading, hk, htrue],
          by simp [argFound, hk, Matches.bool?, h]⟩
      · by_cases hfalse : text = "false"
        · simp only [hfalse] at hread
          cases hread
          exact ⟨.bool false, by simp [ArgDefinition.reading, hk, hfalse],
            by simp [argFound, hk, Matches.bool?, h]⟩
        · simp [htrue, hfalse] at hread
  | int =>
    rw [hk] at hread
    cases text with
    | none => cases hread
    | some text =>
      simp only [readGiven, readerOf, Reader.read] at hread
      cases hi : Decimal.readI64 text with
      | error err => simp [hi] at hread
      | ok i =>
        simp only [hi] at hread
        cases hread
        exact ⟨.int i, by simp [ArgDefinition.reading, hk, hi, Except.toOption],
          by simp [argFound, hk, Matches.int?, h]⟩
  | string =>
    rw [hk] at hread
    cases text with
    | none => cases hread
    | some text =>
      cases hread
      exact ⟨.string text, by simp [ArgDefinition.reading, hk],
        by simp [argFound, hk, Matches.text?, h]⟩

/-! ## What the arguments say is done -/

/-- A registry has done what the arguments of a command line say: `r` before and `r'` after it, and
`a` as the answer. -/
structure Obeyed (r : Registry) (argv : List String) (a : Applied) (r' : Registry) : Prop where
  ready : r'.state = .ready
  kept : r'.scrapers = r.scrapers
  /-- The last switch of a scraper decides, or else its default. -/
  switched : ∀ n e, r.lookup n = some e → r'.isEnabled n =
    (lastOf (long (enableFlag n)) (long (disableFlag n)) argv).getD e.enabledDefault
  /-- An argument that is given has the value given. -/
  given : ∀ n e, r.lookup n = some e → ∀ d ∈ declared e.scraper, '=' ∉ d.name.toList →
    ∀ text, Gives (argFlag n d.name) argv text →
      ∃ v, d.reading text = some v ∧ v.kind = d.kind ∧ r'.argValue n d.name = some v
  written : ∀ n e, r.lookup n = some e → ∀ d ∈ declared e.scraper, '=' ∉ d.name.toList →
    ∀ v : ArgValue, v.kind = d.kind → v.Representable →
      longWith (argFlag n d.name) v.toText ∈ argv → r'.argValue n d.name = some v
  /-- An argument that is not given, or cannot be, keeps its value. -/
  others : ∀ n e, r.lookup n = some e → ∀ d ∈ declared e.scraper,
    ('=' ∈ d.name.toList ∨ ∀ text, ¬ Gives (argFlag n d.name) argv text) →
      r'.argValue n d.name = r.argValue n d.name
  enabled : ∀ n, n ∈ a.enabled ↔ r'.isEnabled n = true
  /-- The answer has the arguments given, in the order of their definitions, with their values. -/
  overrides : ∀ n e, r.lookup n = some e → ∃ (picked : List ArgDefinition) (args : List Arg),
    picked.Sublist (declared e.scraper) ∧
    (∀ d ∈ declared e.scraper, d ∈ picked ↔
      '=' ∉ d.name.toList ∧ ∃ text, Gives (argFlag n d.name) argv text) ∧
    args.map (fun arg => (arg.name, some arg.value)) =
      picked.map (fun d => (d.name, r'.argValue n d.name)) ∧
    find? n a.overrides = if args = [] then none else some args
  unregistered : ∀ n, r.lookup n = none → find? n a.overrides = none

variable {argv : List String} {env : Environment} {a : Applied}

theorem lookup_facts (h : Reachable allowed r) (he : r.lookup name = some e) :
    e ∈ values r.entries ∧ e.scraper.name = name ∧ Registrable e.scraper ∧ Fit e := by
  have hw := h.registrable.wellFormed
  have hmem := mem_of_find? he
  have hscraper : (name, e.scraper) ∈ r.scrapers :=
    List.mem_map_of_mem (f := fun p => (p.1, p.2.scraper)) hmem
  exact ⟨List.mem_map_of_mem (f := Prod.snd) hmem, hw.find?_name he, (hw.allowed _ hscraper).2,
    h.fit _ hmem⟩

theorem lookup_onParsed (ho : r.onParsed m = (.ok a, r')) (n : String) :
    r'.lookup n = (r.lookup n).map (parsed m) := by
  obtain ⟨-, rfl, -, -⟩ := eq_ok_of_onParsed ho
  exact find?_map (parsed m) r.entries

theorem argValue_of_lookup (he : r.lookup name = some e) (arg : String) :
    r.argValue name arg = e.args.bind (·.value? arg) := by
  rw [argValue, he, Option.bind_some]

theorem argValue_onParsed (h : Reachable allowed r) (ho : r.onParsed m = (.ok a, r'))
    (he : r.lookup name = some e) (hd : d ∈ declared e.scraper) : r'.argValue name d.name =
      ((argFound m name d).map (·.value)).or (r.argValue name d.name) := by
  obtain ⟨-, hname, hok, hfit⟩ := lookup_facts h he
  have he' : r'.lookup name = some (parsed m e) := by rw [lookup_onParsed ho, he, Option.map_some]
  rw [argValue_of_lookup he', argValue_of_lookup he, value?_parsed hfit hok hd, hname]

theorem isEnabled_iff_mem (h : Reachable allowed r) (n : String) : r.isEnabled n = true ↔
    n ∈ r.entries.filterMap fun p => if p.2.enabled then some p.1 else none := by
  have ha := h.wellFormed.entries_ascending
  constructor
  · intro hn
    cases hl : r.lookup n with
    | none => simp [isEnabled, hl] at hn
    | some e =>
      have hen : e.enabled = true := by simpa [isEnabled, hl] using hn
      exact List.mem_filterMap.2 ⟨(n, e), mem_of_find? hl, by simp [hen]⟩
  · intro hn
    obtain ⟨p, hp, hpn⟩ := List.mem_filterMap.1 hn
    split at hpn
    · rename_i hen
      cases hpn
      have hl : r.lookup p.1 = some p.2 := ha.find? hp
      simpa [isEnabled, hl] using hen
    · cases hpn

/-- The answer has what was found for each entry. -/
theorem find?_overrides (h : Reachable allowed r) (ho : r.onParsed m = (.ok a, r')) (n : String) :
    find? n a.overrides = (r.lookup n).bind fun e =>
      if argsFound m e.scraper = [] then none else some (argsFound m e.scraper) := by
  obtain ⟨-, -, hover, -⟩ := eq_ok_of_onParsed ho
  have hkey : ∀ p q, givenFor m p = some q → q.1 = p.1 := fun p q hq => by
    unfold givenFor at hq
    split at hq <;> cases hq
    rfl
  rw [hover, find?_filterMap hkey h.wellFormed.entries_ascending]
  refine congrArg _ (funext fun e => ?_)
  unfold givenFor
  split <;> rfl

section

variable (h : Reachable allowed r) (hids : (r.flags.map (·.name)).Nodup)
  (hown : Apart own.flags r) (hp : CommandLine.parse (r.bindTo own) env argv = .ok m)

include h hids hown hp

/-- An argument is found if and only if it is given, with what it is given. -/
theorem argFound_given (he : r.lookup name = some e) (hd : d ∈ declared e.scraper) :
    ('=' ∉ d.name.toList → ∀ text, Gives (argFlag name d.name) argv text →
      ∃ v, d.reading text = some v ∧ argFound m name d = some ⟨d.name, v⟩) ∧
    ('=' ∈ d.name.toList ∨ (∀ text, ¬ Gives (argFlag name d.name) argv text) →
      argFound m name d = none) := by
  obtain ⟨hmem, rfl, hok, -⟩ := lookup_facts h he
  have hoption := CommandLine.parse_option (plain_flagOfArg hids hown hmem hd) hp
  rw [name_flagOfArg, nameable_argFlag hok.named, equals_mem_argFlag hok.named] at hoption
  refine ⟨fun hname text hg => ?_, fun hno => argFound_of_none (hoption.2 hno)⟩
  obtain ⟨v, hread, hv⟩ := hoption.1 hname text hg
  exact argFound_of_given hread hv

theorem enabledBy_eq (he : r.lookup name = some e) : enabledBy m e =
    (lastOf (long (enableFlag name)) (long (disableFlag name)) argv).getD e.enabledDefault := by
  obtain ⟨hmem, rfl, hok, -⟩ := lookup_facts h he
  obtain ⟨on, off, hon, hoff, hop⟩ := exists_opposed hids hown hmem hok.named
  have hset := CommandLine.parse_switches hop hp
  rw [hon, hoff] at hset
  rw [enabledBy, hset.1, hset.2]
  rcases lastOf _ _ argv with _ | (_ | _) <;> rfl

/-- The answer for one scraper. -/
theorem exists_picked (ho : r.onParsed m = (.ok a, r')) (he : r.lookup name = some e) :
    ∃ (picked : List ArgDefinition) (args : List Arg), picked.Sublist (declared e.scraper) ∧
      (∀ d ∈ declared e.scraper, d ∈ picked ↔
        '=' ∉ d.name.toList ∧ ∃ text, Gives (argFlag name d.name) argv text) ∧
      args.map (fun arg => (arg.name, some arg.value)) =
        picked.map (fun d => (d.name, r'.argValue name d.name)) ∧
      find? name a.overrides = if args = [] then none else some args := by
  obtain ⟨-, rfl, -, -⟩ := lookup_facts h he
  refine ⟨(declared e.scraper).filter fun d => (argFound m e.scraper.name d).isSome,
    argsFound m e.scraper, List.filter_sublist, fun d hd => ?_, ?_, ?_⟩
  · obtain ⟨hgiven, hnot⟩ := argFound_given h hids hown hp he hd
    rw [List.mem_filter, and_iff_right hd]
    constructor
    · intro hsome
      have hname : '=' ∉ d.name.toList := fun hm => by simp [hnot (.inl hm)] at hsome
      refine ⟨hname, not_forall_not.1 fun hno => ?_⟩
      simp [hnot (.inr hno)] at hsome
    · rintro ⟨hname, text, hg⟩
      obtain ⟨v, -, hv⟩ := hgiven hname text hg
      simp [hv]
  · refine map_filterMap_eq fun d hd arg harg => ?_
    rw [argValue_onParsed h ho he hd, harg, (argFound_eq_some harg).1]
    rfl
  · rw [find?_overrides h ho, he, Option.bind_some]

theorem obeyed_of_onParsed (ho : r.onParsed m = (.ok a, r')) : Obeyed r argv a r' := by
  have hsnd : (r.onParsed m).2 = r' := by rw [ho]
  have hgiven : ∀ n e, r.lookup n = some e → ∀ d ∈ declared e.scraper, '=' ∉ d.name.toList →
      ∀ text, Gives (argFlag n d.name) argv text →
        ∃ v, d.reading text = some v ∧ v.kind = d.kind ∧ r'.argValue n d.name = some v := by
    intro n e he d hd hname text hg
    obtain ⟨v, hread, hv⟩ := (argFound_given h hids hown hp he hd).1 hname text hg
    refine ⟨v, hread, ArgDefinition.kind_of_reading hread, ?_⟩
    rw [argValue_onParsed h ho he hd, hv]
    rfl
  obtain ⟨-, hr', -, henabled⟩ := eq_ok_of_onParsed ho
  refine
    { ready := by rw [hr']
      kept := scrapers_eq_of_fixed (hsnd ▸ fixed_onParsed m r)
      switched := fun n e he => ?_
      given := hgiven
      written := fun n e he d hd hname v hk hv hmem => ?_
      others := fun n e he d hd hno => ?_
      enabled := fun n => ?_
      overrides := fun n e he => exists_picked h hids hown hp ho he
      unregistered := fun n hn => ?_ }
  · rw [isEnabled, lookup_onParsed ho, he, ← enabledBy_eq h hids hown hp he]
    rfl
  · obtain ⟨w, hread, -, hw⟩ := hgiven n e he d hd hname _ (CommandLine.gives_of_mem hmem)
    cases (ArgDefinition.reading_toText hk hv).symm.trans hread
    exact hw
  · rw [argValue_onParsed h ho he hd, (argFound_given h hids hown hp he hd).2 hno]
    rfl
  · rw [henabled, isEnabled_iff_mem (hsnd ▸ Reachable.onParsed m h)]
  · rw [find?_overrides h ho, hn]
    rfl

end

/-- **A registry does what the command line says.** The flags read are those that have been bound;
if their names are distinct and not those of the rest of the command, every accepted command line is
applied, unless a scraper refuses its arguments on grounds of its own, and what it says is done. -/
theorem onParsed_obeyed (h : Reachable allowed r) (hs : r.state = .flagsPending)
    (hids : (r.flags.map (·.name)).Nodup) (hown : Apart own.flags r)
    (hp : CommandLine.parse (r.bindTo own) env argv = .ok m) :
    (∃ r₀ r₁, Reachable allowed r₀ ∧ r₀.init = .ok (r.flags, r₁)) ∧
      ((∀ s ∈ values r.scrapers, ∀ args, s.refuses args = none) →
        ∃ a r', r.onParsed m = (.ok a, r')) ∧
      ∀ a r', r.onParsed m = (.ok a, r') → Obeyed r argv a r' :=
  ⟨h.exists_init hs, exists_onParsed h hs, fun _ _ ho => obeyed_of_onParsed h hids hown hp ho⟩

/-- The program with the built-in scrapers does what its command line says. -/
theorem builtin_obeyed (usage : Collector.SelfUsage.Usage) {flags : List Flag}
    (hi : (Collector.defaultRegistry usage).init = .ok (flags, r))
    (hp : CommandLine.parse (Startup.command flags) env argv = .ok m) :
    ∃ a r', r.onParsed m = (.ok a, r') ∧ Obeyed r argv a r' := by
  have hrefuses : (Collector.builtin usage).map (·.1.refuses) =
      List.replicate 15 fun _ => none := rfl
  have hdefault :
      Reachable (fun s => s.refuses = fun _ => none) (Collector.defaultRegistry usage) :=
    reachable_registryOf fun p hp => by
      have hmem := List.mem_map_of_mem (f := fun p : Scraper × Bool => p.1.refuses) hp
      exact List.eq_of_mem_replicate (hrefuses ▸ hmem)
  obtain ⟨-, hflags, rfl⟩ := init_eq_ok.1 hi
  have hr := hdefault.init hi
  have hids := builtin_flag_names_nodup usage
  rw [← hflags] at hp
  obtain ⟨a, r', ho⟩ := exists_onParsed (m := m) hr rfl fun s hs args => by
    obtain ⟨p, hp, rfl⟩ := List.mem_map.1 hs
    rw [hr.wellFormed.allowed p hp]
  have hbound :=
    bindTo_globalFlags (r := { Collector.defaultRegistry usage with state := .flagsPending })
  exact ⟨a, r', ho, obeyed_of_onParsed hr hids (apart_globalFlags _) (hbound ▸ hp) ho⟩

def beforeEqualSigns : Registry := Collector.registryOf [(idle "n" ["x", "x=y"], true)]

/-- A registry that waits for a command line, with one argument named as another with a text. -/
def equalSigns : Registry := { beforeEqualSigns with state := .flagsPending }

/-- The last of three switches turns the scraper off, and what looks like the second argument with a
text is the first one with a longer text. -/
theorem equalSigns_obeyed : ∃ m, CommandLine.parse (equalSigns.bindTo ⟨[], false⟩) []
      ["--no-collect.n", "--collect.n", "--collect.n.x=y=5", "--no-collect.n"] = .ok m ∧
    ∃ a r', equalSigns.onParsed m = (.ok a, r') ∧ r'.isEnabled "n" = false ∧
      r'.argValue "n" "x" = some (.string "y=5") ∧ r'.argValue "n" "x=y" = some (.string "") := by
  have hbefore : Reachable (fun _ => True) beforeEqualSigns :=
    reachable_registryOf fun _ _ => trivial
  have hbound : beforeEqualSigns.init = .ok (equalSigns.flags, equalSigns) := rfl
  have hentry : equalSigns.lookup "n" =
      some ⟨idle "n" ["x", "x=y"], true, true, (idle "n" ["x", "x=y"]).argSet⟩ := rfl
  have hscrapers : values equalSigns.scrapers = [idle "n" ["x", "x=y"]] := rfl
  have happart : Apart [] equalSigns := ⟨by simp, by simp⟩
  obtain ⟨m, hp⟩ : ∃ m, CommandLine.parse (equalSigns.bindTo ⟨[], false⟩) []
      ["--no-collect.n", "--collect.n", "--collect.n.x=y=5", "--no-collect.n"] = .ok m := ⟨_, rfl⟩
  obtain ⟨-, happlied, hobeyed⟩ := onParsed_obeyed (hbefore.init hbound) rfl (by decide) happart hp
  obtain ⟨a, r', ho⟩ := happlied (by rw [hscrapers]; simp [idle])
  have h := hobeyed a r' ho
  have hoff := h.switched "n" _ hentry
  have hx :=
    h.written "n" _ hentry ⟨"x", "", .string ""⟩ (by decide) (by decide) (.string "y=5") rfl
    trivial (by decide)
  have hxy := h.others "n" _ hentry ⟨"x=y", "", .string ""⟩ (by decide) (.inl (by decide))
  exact ⟨m, hp, a, r', ho, hoff.trans (by decide), hx, hxy.trans (by decide)⟩

end Registry
end MysqlMetrics
