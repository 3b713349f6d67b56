import MysqlMetrics.Proofs.Argument
import MysqlMetrics.Proofs.Lists
import MysqlMetrics.Proofs.Registry.Flags
/-!
# Entries of a registry

An entry is registered with the arguments of its scraper at their defaults; from then on operations
configure its arguments and turn it on or off, and nothing else (`Changed`). So it always has the
arguments that its scraper declares (`Fit`), and a command line that is applied makes of each entry
what was found for it (`eq_ok_of_onParsed`).
-/
namespace MysqlMetrics

open SortedTable

namespace Registry

variable {allowed : Scraper → Prop} {r r' : Registry} {e e' : RegistryEntry} {s : Scraper}
  {name : String} {m : CommandLine.Matches}

/-! ## The arguments of an entry -/

/-- What operations make of an entry: its arguments are configured, and it is turned on and off. -/
inductive Changed : RegistryEntry → RegistryEntry → Prop
  | same {e : RegistryEntry} : Changed e e
  | configured {e : RegistryEntry} {set set' : ArgSet} {args : List Arg} (he : e.args = some set)
    (hc : set.configure args = .ok set') : Changed e { e with args := some set' }
  | switched {e : RegistryEntry} (enabled : Bool) : Changed e { e with enabled := enabled }

theorem changed_of_configureEntry {given : Option (List Arg)}
    (h : configureEntry m name e = .ok (e', given)) : Changed e e' := by
  unfold configureEntry at h
  split at h
  · cases h; exact .same
  · split at h
    · cases h
    · rename_i set hset
      cases hc : set.configure _ with
      | error err => rw [hc] at h; cases h
      | ok set' => rw [hc] at h; cases h; exact .configured hset hc

theorem mem_configureAll : ∀ {t : SortedTable String RegistryEntry} {p : String × RegistryEntry},
    p ∈ (configureAll m t).1 → ∃ q ∈ t, Changed q.2 p.2
  | [], _, h => by cases h
  | (name, e) :: rest, p, h => by
    unfold configureAll at h
    split at h
    · exact ⟨p, h, .same⟩
    · rename_i e' given hc
      rcases List.mem_cons.1 h with rfl | h
      · exact ⟨(name, e), .head _, changed_of_configureEntry hc⟩
      · obtain ⟨q, hq, hch⟩ := mem_configureAll h
        exact ⟨q, .tail _ hq, hch⟩

theorem mem_adjust {f : RegistryEntry → RegistryEntry} {t : SortedTable String RegistryEntry}
    {p : String × RegistryEntry} (h : p ∈ adjust name f t) :
    p ∈ t ∨ ∃ q ∈ t, q.1 = name ∧ p.2 = f q.2 := by
  unfold adjust at h
  obtain ⟨q, hq, rfl⟩ := List.mem_map.1 h
  dsimp only
  split
  · rename_i hname
    exact .inr ⟨q, hq, (by simpa using hname : name = q.1).symm, rfl⟩
  · exact .inl hq

/-- What holds of entries when they are registered, and as they change, holds of all entries. -/
theorem Reachable.forall_entries {P : RegistryEntry → Prop} (h : Reachable allowed r)
    (hnew : ∀ s enabled, allowed s → P ⟨s, enabled, enabled, s.argSet⟩)
    (hch : ∀ {e e'}, Changed e e' → P e → P e') : ∀ p ∈ r.entries, P p.2 := by
  induction h with
  | empty => intro p hp; cases hp
  | @register r r' s enabled _ hs hr ih =>
    obtain ⟨-, -, -, rfl⟩ := register_eq_ok.1 hr
    intro p hp
    rcases mem_insert hp with rfl | hp
    · exact hnew s enabled hs
    · exact ih p hp
  | init _ hr ih =>
    obtain ⟨-, -, rfl⟩ := init_eq_ok.1 hr
    exact ih
  | @onParsed r m _ ih =>
    have hconfigured : ∀ p ∈ (configureAll m r.entries).1, P p.2 := fun p hp => by
      obtain ⟨q, hq, hchanged⟩ := mem_configureAll hp
      exact hch hchanged (ih q hq)
    unfold Registry.onParsed
    split
    · exact ih
    · exact ih
    · exact ih
    · split <;> rename_i heq <;> rw [heq] at hconfigured
      · exact hconfigured
      · intro p hp
        obtain ⟨q, hq, rfl⟩ := List.mem_map.1 hp
        exact hch (.switched _) (hconfigured q hq)
  | @configure r r' name args hreach hr ih =>
    unfold Registry.configure at hr
    split at hr
    · cases hr
    · rename_i e hlookup
      split at hr
      · rename_i set hset
        split at hr <;> cases hr
        rename_i set' hc
        intro p hp
        rcases mem_adjust (f := fun e => { e with args := some set' }) hp
          with hp | ⟨q, hq, rfl, hpq⟩
        · exact ih p hp
        · have he : e = q.2 :=
            Option.some.inj (hlookup.symm.trans (hreach.wellFormed.entries_ascending.find? hq))
          exact hpq ▸ hch (.configured (he ▸ hset) hc) (ih q hq)
      · cases hr; exact ih
      · cases hr
  | @setEnabled r r' name enabled _ hr ih =>
    unfold Registry.setEnabled at hr
    split at hr
    · cases hr
    split at hr <;> cases hr
    intro p hp
    rcases mem_adjust (f := fun e => { e with enabled := enabled }) hp with hp | ⟨q, hq, -, hpq⟩
    · exact ih p hp
    · exact hpq ▸ hch (.switched enabled) (ih q hq)
  | teardown => intro p hp; cases hp

/-- An entry has the arguments that its scraper declares, with values of any kind. -/
def Fit (e : RegistryEntry) : Prop :=
  ∃ current : List Arg, current.map (·.name) = argNames e.scraper ∧
  e.args = e.scraper.argSet.map fun set => { set with current := current }

theorem fit_new (s : Scraper) (enabled : Bool) : Fit ⟨s, enabled, enabled, s.argSet⟩ := by
  cases h : s.definitions with
  | none => exact ⟨[], by simp [argNames, declared, h], by simp [Scraper.argSet, h]⟩
  | some defs =>
    refine ⟨ArgDefinition.defaults defs, ?_, by simp [Scraper.argSet, h, ArgSet.new]⟩
    simp [argNames, declared, h, ArgDefinition.defaults, Function.comp_def]

theorem Fit.changed (h : Changed e e') (hf : Fit e) : Fit e' := by
  cases h with
  | same => exact hf
  | switched => exact hf
  | @configured set set' args he hc =>
    obtain ⟨current, hnames, hargs⟩ := hf
    obtain ⟨-, -, rfl⟩ := ArgSet.configure_eq_ok.1 hc
    obtain ⟨set₀, hset₀, rfl⟩ := Option.map_eq_some_iff.1 (hargs.symm.trans he)
    refine ⟨ArgSet.assignAll current args, (ArgSet.names_assignAll args current).trans hnames, ?_⟩
    simp [hset₀]

theorem Reachable.fit (h : Reachable allowed r) : ∀ p ∈ r.entries, Fit p.2 :=
  h.forall_entries (fun s enabled _ => fit_new s enabled) Fit.changed

/-! ## What is made of the values found -/

theorem argFound_eq_some {d : ArgDefinition} {a : Arg} (h : argFound m name d = some a) :
    a.name = d.name ∧ a.value.kind = d.kind := by
  unfold argFound at h
  obtain ⟨v, hv, rfl⟩ := Option.map_eq_some_iff.1 h
  refine ⟨rfl, ?_⟩
  cases hk : d.kind <;> simp only [hk] at hv <;>
    obtain ⟨x, -, rfl⟩ := Option.map_eq_some_iff.1 hv <;> rfl

/-- What becomes of an entry. -/
def parsed (m : CommandLine.Matches) (e : RegistryEntry) : RegistryEntry :=
  { e with
    args := e.args.map fun set =>
      { set with current := ArgSet.assignAll set.current (argsFound m e.scraper) }
    enabled := enabledBy m e }

theorem eq_ok_of_configureEntry {given : Option (List Arg)}
    (h : configureEntry m name e = .ok (e', given)) :
    { e' with enabled := enabledBy m e' } = parsed m e ∧
      given = if argsFound m e.scraper = [] then none else some (argsFound m e.scraper) := by
  unfold configureEntry at h
  split at h
  · rename_i hnone
    cases h
    refine ⟨?_, by simp [hnone]⟩
    have hsame : e.args = e.args.map fun set =>
        { set with current := ArgSet.assignAll set.current [] } := by
      cases e.args <;> rfl
    simp only [parsed, hnone, ← hsame]
  · rename_i a rest hfound
    split at h
    · cases h
    · rename_i set hset
      cases hc : set.configure (a :: rest) with
      | error err => rw [hc] at h; cases h
      | ok set' =>
        rw [hc] at h
        cases h
        obtain ⟨-, -, rfl⟩ := ArgSet.configure_eq_ok.1 hc
        refine ⟨?_, by simp [hfound]⟩
        simp only [parsed, hset, hfound, Option.map_some]
        rfl

/-- The arguments given for an entry, if any. -/
def givenFor (m : CommandLine.Matches) (p : String × RegistryEntry) : Option (String × List Arg) :=
  if argsFound m p.2.scraper = [] then none else some (p.1, argsFound m p.2.scraper)

theorem eq_ok_of_configureAll : ∀ {t t' : SortedTable String RegistryEntry}
    {overrides : SortedTable String (List Arg)}, configureAll m t = (t', .ok overrides) →
      t'.map (fun p => (p.1, { p.2 with enabled := enabledBy m p.2 })) =
          t.map (fun p => (p.1, parsed m p.2)) ∧ overrides = t.filterMap (givenFor m)
  | [], _, _, h => by cases h; exact ⟨rfl, rfl⟩
  | (name, e) :: rest, t', overrides, h => by
    unfold configureAll at h
    split at h
    · cases h
    · rename_i e' given hc
      obtain ⟨hparsed, hgiven⟩ := eq_ok_of_configureEntry hc
      cases hrest : configureAll m rest with
      | mk rest' result =>
        rw [hrest] at h
        cases result with
        | error err => cases h
        | ok overrides =>
          obtain ⟨hentries, hover⟩ := eq_ok_of_configureAll hrest
          cases h
          refine ⟨by simp only [List.map_cons, hentries, hparsed], ?_⟩
          by_cases hfound : argsFound m e.scraper = [] <;> simp [givenFor, hgiven, hfound, hover]

theorem eq_ok_of_onParsed {a : Applied} (h : r.onParsed m = (.ok a, r')) :
    r.state = .flagsPending ∧ r' = ⟨.ready, r.entries.map fun p => (p.1, parsed m p.2)⟩ ∧
      a.overrides = r.entries.filterMap (givenFor m) ∧
        a.enabled = r'.entries.filterMap fun p => if p.2.enabled then some p.1 else none := by
  unfold onParsed at h
  split at h
  · cases h
  · cases h
  · cases h
  · rename_i hs
    split at h
    · cases h
    · rename_i hc
      obtain ⟨hentries, hover⟩ := eq_ok_of_configureAll hc
      cases h
      exact ⟨hs, by rw [← hentries], hover, rfl⟩

/-! ## Nothing but a scraper refuses what is found -/

theorem Fit.args_cases (h : Fit e) : e.scraper.definitions = none ∧ e.args = none ∨
    ∃ set, e.args = some set ∧ e.scraper.definitions = some set.definitions ∧
      set.refuses = e.scraper.refuses ∧ set.current.map (·.name) = argNames e.scraper := by
  obtain ⟨current, hnames, hargs⟩ := h
  cases hd : e.scraper.definitions with
  | none => exact .inl ⟨rfl, by simp [hargs, Scraper.argSet, hd]⟩
  | some defs =>
    rw [Scraper.argSet, hd, Option.map_some, Option.map_some] at hargs
    exact .inr ⟨_, hargs, rfl, rfl, hnames⟩

theorem mem_argsFound {a : Arg} (h : a ∈ argsFound m s) :
    ∃ d ∈ declared s, a.name = d.name ∧ a.value.kind = d.kind := by
  obtain ⟨d, hd, ha⟩ := List.mem_filterMap.1 h
  exact ⟨d, hd, argFound_eq_some ha⟩

/-- What is found for an entry is declared and of the declared kind. -/
theorem exists_configureEntry (h : Fit e) (hok : Registrable e.scraper)
    (href : ∀ args, e.scraper.refuses args = none) (name : String) :
    ∃ result, configureEntry m name e = .ok result := by
  unfold configureEntry
  split
  · exact ⟨_, rfl⟩
  · rename_i a rest hfound
    rcases h.args_cases with ⟨hdefs, -⟩ | ⟨set, hset, hdefs, hrefuses, -⟩
    · simp [argsFound, hdefs] at hfound
    · have hdeclared : declared e.scraper = set.definitions := by simp [declared, hdefs]
      have hchecks : ∀ b ∈ a :: rest, set.check b = .ok () := fun b hb => by
        obtain ⟨d, hd, hname, hkind⟩ := mem_argsFound (hfound ▸ hb)
        rw [hdeclared] at hd
        exact ArgSet.check_eq_ok (hdeclared ▸ hok.distinct) hd hname hkind
      have hconfigured := ArgSet.configure_eq_ok.2 ⟨hchecks, by rw [hrefuses, href], rfl⟩
      simp only [hset, hconfigured]
      exact ⟨_, rfl⟩

theorem exists_configureAll : ∀ {t : SortedTable String RegistryEntry},
    (∀ p ∈ t, ∃ result, configureEntry m p.1 p.2 = .ok result) →
      ∃ overrides, (configureAll m t).2 = .ok overrides
  | [], _ => ⟨[], rfl⟩
  | (name, e) :: rest, h => by
    obtain ⟨⟨⟨e', given⟩, he⟩, hrest⟩ := List.forall_mem_cons.1 h
    obtain ⟨overrides, ho⟩ := exists_configureAll hrest
    simp only [configureAll, he, ho]
    exact ⟨_, rfl⟩

/-- A command line is applied where scrapers have nothing of their own to object. -/
theorem exists_onParsed (h : Reachable allowed r) (hs : r.state = .flagsPending)
    (href : ∀ s ∈ values r.scrapers, ∀ args, s.refuses args = none) :
    ∃ a r', r.onParsed m = (.ok a, r') := by
  have hentries : ∀ p ∈ r.entries, ∃ result, configureEntry m p.1 p.2 = .ok result := fun p hp => by
    have hmem : (p.1, p.2.scraper) ∈ r.scrapers :=
      List.mem_map_of_mem (f := fun p => (p.1, p.2.scraper)) hp
    exact exists_configureEntry (h.fit p hp) (h.registrable.wellFormed.allowed _ hmem).2
      (href _ (List.mem_map_of_mem (f := Prod.snd) hmem)) p.1
  obtain ⟨overrides, ho⟩ := exists_configureAll hentries
  unfold onParsed
  simp only [hs]
  cases hc : configureAll m r.entries with
  | mk entries result =>
    rw [hc] at ho
    obtain rfl : result = .ok overrides := ho
    exact ⟨_, _, rfl⟩

/-! ## The values afterwards -/

/-- The present value of an argument. -/
def argValue (r : Registry) (name arg : String) : Option ArgValue :=
  ((r.lookup name).bind (·.args)).bind (·.value? arg)

theorem valueOf_argsFound (hok : Registrable s) {d : ArgDefinition} (hd : d ∈ declared s) :
    ArgSet.valueOf (argsFound m s) d.name = (argFound m s.name d).map (·.value) := by
  have key : ∀ {defs : List ArgDefinition}, (defs.map (·.name)).Nodup → d ∈ defs →
      ArgSet.valueOf (defs.filterMap (argFound m s.name)) d.name =
        (argFound m s.name d).map (·.value) := by
    intro defs hn hd
    induction defs with
    | nil => cases hd
    | cons c defs ih =>
      obtain ⟨hnew, hn⟩ := List.nodup_cons.1 hn
      rcases List.mem_cons.1 hd with rfl | hd
      · cases hc : argFound m s.name d with
        | some a => simp [ArgSet.valueOf, hc, (argFound_eq_some hc).1]
        | none =>
          simp only [ArgSet.valueOf, List.filterMap_cons, hc, Option.map_none,
            Option.map_eq_none_iff, List.find?_eq_none]
          intro b hb heq
          obtain ⟨d', hd', hb⟩ := List.mem_filterMap.1 hb
          refine hnew (List.mem_map.2 ⟨d', hd', ?_⟩)
          rw [← (argFound_eq_some hb).1]
          simpa using heq
      · have hne : ¬ c.name = d.name := fun e => hnew (List.mem_map.2 ⟨d, hd, e.symm⟩)
        have ih := ih hn hd
        cases hc : argFound m s.name c with
        | none => simpa [ArgSet.valueOf, List.filterMap_cons, hc] using ih
        | some a =>
          simpa [ArgSet.valueOf, List.filterMap_cons, hc, (argFound_eq_some hc).1, hne] using ih
  exact key hok.distinct hd

theorem names_argsFound : (argsFound m s).map (·.name) =
    ((declared s).filter fun d => (argFound m s.name d).isSome).map (·.name) :=
  map_filterMap_eq fun _ _ _ ha => (argFound_eq_some ha).1

/-- What is found for an argument is its value afterwards; else it keeps its own. -/
theorem value?_parsed (h : Fit e) (hok : Registrable e.scraper) {d : ArgDefinition}
    (hd : d ∈ declared e.scraper) : (parsed m e).args.bind (·.value? d.name) =
      ((argFound m e.scraper.name d).map (·.value)).or (e.args.bind (·.value? d.name)) := by
  rcases h.args_cases with ⟨hdefs, -⟩ | ⟨set, hset, -, -, hnames⟩
  · simp [declared, hdefs] at hd
  · have hn : ((argsFound m e.scraper).map (·.name)).Nodup := by
      rw [names_argsFound]
      exact hok.distinct.sublist ((List.filter_sublist).map _)
    have hmem : ∀ a ∈ argsFound m e.scraper, a.name ∈ set.current.map (·.name) := fun a ha => by
      obtain ⟨c, hc, hname, -⟩ := mem_argsFound ha
      rw [hnames, hname]
      exact List.mem_map_of_mem hc
    have hvalue := ArgSet.valueOf_assignAll hn hmem d.name
    rw [valueOf_argsFound hok hd] at hvalue
    simp only [parsed, hset, Option.map_some, Option.bind_some]
    exact hvalue

end Registry
end MysqlMetrics
