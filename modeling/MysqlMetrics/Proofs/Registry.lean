import MysqlMetrics.Collector.Builtin
import MysqlMetrics.Proofs.Table
/-!
# Registries that can come about

A registry is what its operations make of the empty one (`Reachable`), with scrapers of some kind
only. Whatever they are, the scrapers stand under their own names in ascending order
(`Reachable.wellFormed`): only a registration adds one, and only a teardown takes any away.
-/
namespace MysqlMetrics

open SortedTable

namespace Registry

/-- What operations make of the empty registry, if only allowed scrapers are registered. -/
inductive Reachable (allowed : Scraper → Prop) : Registry → Prop
  | empty : Reachable allowed .empty
  | register {r r' : Registry} {s : Scraper} {enabled : Bool} (h : Reachable allowed r)
    (hs : allowed s) (hr : r.register s enabled = .ok r') : Reachable allowed r'
  | init {r r' : Registry} {flags : List CommandLine.Flag} (h : Reachable allowed r)
    (hr : r.init = .ok (flags, r')) : Reachable allowed r'
  | onParsed {r : Registry} (m : CommandLine.Matches) (h : Reachable allowed r) :
    Reachable allowed (r.onParsed m).2
  | configure {r r' : Registry} {name : String} {args : List Arg} (h : Reachable allowed r)
    (hr : r.configure name args = .ok r') : Reachable allowed r'
  | setEnabled {r r' : Registry} {name : String} {enabled : Bool} (h : Reachable allowed r)
    (hr : r.setEnabled name enabled = .ok r') : Reachable allowed r'
  | teardown {r : Registry} (h : Reachable allowed r) : Reachable allowed r.teardown

/-- The scrapers by their keys. -/
def scrapers (r : Registry) : SortedTable String Scraper :=
  r.entries.map fun p => (p.1, p.2.scraper)

/-- The scrapers are allowed and stand under their own names, in ascending order. -/
structure WellFormed (allowed : Scraper → Prop) (r : Registry) : Prop where
  ascending : Ascending r.scrapers
  named : ∀ p ∈ r.scrapers, p.2.name = p.1
  allowed : ∀ p ∈ r.scrapers, allowed p.2

variable {allowed : Scraper → Prop} {r r' : Registry} {s : Scraper} {name : String}

/-! ## What can be registered -/

/-- A text of ASCII letters, digits, dots and underscores, and not the empty one. -/
def IsName (name : String) : Prop :=
  name ≠ "" ∧ ∀ c ∈ name.toList,
    ('A' ≤ c ∧ c ≤ 'Z') ∨ ('a' ≤ c ∧ c ≤ 'z') ∨ ('0' ≤ c ∧ c ≤ '9') ∨ c = '.' ∨ c = '_'

theorem isNameChar_iff {c : Char} : isNameChar c = true ↔
    ('A' ≤ c ∧ c ≤ 'Z') ∨ ('a' ≤ c ∧ c ≤ 'z') ∨ ('0' ≤ c ∧ c ≤ '9') ∨ c = '.' ∨ c = '_' := by
  unfold isNameChar Char.isAlphanum Char.isAlpha Char.isUpper Char.isLower Char.isDigit
  simp only [Bool.or_eq_true, Bool.and_eq_true, decide_eq_true_eq, beq_iff_eq, ge_iff_le]
  have hle : ∀ a b : Char, a ≤ b ↔ a.val ≤ b.val := fun _ _ => Iff.rfl
  simp only [hle, or_assoc]

theorem isValidName_iff {name : String} : isValidName name = true ↔ IsName name := by
  simp [isValidName, IsName, isNameChar_iff]

theorem repeated?_eq_none : ∀ {defs : List ArgDefinition},
    ArgDefinition.repeated? defs = none ↔ (defs.map (·.name)).Nodup
  | [] => by simp [ArgDefinition.repeated?]
  | d :: rest => by
    have ih : ArgDefinition.repeated? rest = none ↔ _ := repeated?_eq_none
    unfold ArgDefinition.repeated?
    by_cases hd : rest.any (·.name == d.name) = true
    · have : ∃ x ∈ rest, x.name = d.name := by simpa using hd
      simp [hd, this]
    · have : ∀ x ∈ rest, ¬ x.name = d.name := by simpa using hd
      simp only [hd, Bool.false_eq_true, if_false, ih, List.map_cons, List.nodup_cons, List.mem_map,
        not_exists, not_and]
      exact ⟨fun h => ⟨this, h⟩, fun h => h.2⟩

/-- The arguments that a scraper declares. -/
def declared (s : Scraper) : List ArgDefinition := s.definitions.getD []

def argNames (s : Scraper) : List String := (declared s).map (·.name)

/-- A scraper with a valid name and arguments of distinct names. -/
structure Registrable (s : Scraper) : Prop where
  named : IsName s.name
  distinct : (argNames s).Nodup

theorem validate_eq_ok {scraper : String} {defs : List ArgDefinition} :
    ArgDefinition.validate scraper defs = .ok () ↔ (defs.map (·.name)).Nodup := by
  rw [← repeated?_eq_none, ArgDefinition.validate]
  cases ArgDefinition.repeated? defs <;> simp

theorem register_eq_ok {enabled : Bool} : r.register s enabled = .ok r' ↔
    r.state = .uninitialized ∧ Registrable s ∧ has s.name r.entries = false ∧
      { r with entries := insert s.name ⟨s, enabled, enabled, s.argSet⟩ r.entries } = r' := by
  by_cases hs : r.state = .uninitialized
  · by_cases hn : isValidName s.name = true
    · cases hh : has s.name r.entries with
      | true => simp [register, hs, hn, hh]
      | false =>
        cases hv : ArgDefinition.validate s.name (s.definitions.getD []) with
        | error err =>
          have hdup : ¬ Registrable s := fun hok => by
            cases (validate_eq_ok.2 hok.distinct).symm.trans hv
          simp [register, hs, hn, hh, hv, hdup]
        | ok u =>
          have hok : Registrable s := ⟨isValidName_iff.1 hn, validate_eq_ok.1 hv⟩
          simp [register, hs, hn, hh, hv, hok]
    · have hno : ¬ Registrable s := fun hok => hn (isValidName_iff.2 hok.named)
      simp [register, hs, hn, hno]
  · simp [register, hs]

/-- Nothing else is ever registered. -/
theorem Reachable.registrable (h : Reachable allowed r) :
    Reachable (fun s => allowed s ∧ Registrable s) r := by
  induction h with
  | empty => exact .empty
  | register _ hs hr ih => exact .register ih ⟨hs, (register_eq_ok.1 hr).2.1⟩ hr
  | init _ hr ih => exact .init ih hr
  | onParsed m _ ih => exact .onParsed m ih
  | configure _ hr ih => exact .configure ih hr
  | setEnabled _ hr ih => exact .setEnabled ih hr
  | teardown _ ih => exact .teardown ih

/-! ## What operations do to the scrapers -/

theorem WellFormed.of_empty (h : r.entries = []) : WellFormed allowed r := by
  have hs : r.scrapers = [] := by simp [scrapers, h]
  exact ⟨hs ▸ .nil, by simp [hs], by simp [hs]⟩

theorem WellFormed.insert (hw : WellFormed allowed r) {e : RegistryEntry} (hs : allowed e.scraper) :
    WellFormed allowed { r with entries := SortedTable.insert e.scraper.name e r.entries } := by
  have ha : Ascending r.entries := List.pairwise_map.1 hw.ascending
  have hmem : ∀ p ∈ scrapers ⟨r.state, SortedTable.insert e.scraper.name e r.entries⟩,
      p = (e.scraper.name, e.scraper) ∨ p ∈ r.scrapers := by
    intro p hp
    obtain ⟨q, hq, rfl⟩ := List.mem_map.1 hp
    rcases mem_insert hq with rfl | hq
    · exact .inl rfl
    · exact .inr (List.mem_map_of_mem hq)
  refine ⟨List.pairwise_map.2 ha.insert, fun p hp => ?_, fun p hp => ?_⟩
  · rcases hmem p hp with rfl | hp
    · rfl
    · exact hw.named p hp
  · rcases hmem p hp with rfl | hp
    · exact hs
    · exact hw.allowed p hp

theorem scrapers_register {enabled : Bool} (hw : WellFormed allowed r) (hs : allowed s)
    (h : r.register s enabled = .ok r') : WellFormed allowed r' := by
  obtain ⟨-, -, -, rfl⟩ := register_eq_ok.1 h
  exact hw.insert (e := ⟨s, enabled, enabled, s.argSet⟩) hs

theorem map_adjust {β : Type} {f : RegistryEntry → β} (change : RegistryEntry → RegistryEntry)
    (hf : ∀ e, f (change e) = f e) (t : SortedTable String RegistryEntry) :
    (adjust name change t).map (fun p => (p.1, f p.2)) = t.map fun p => (p.1, f p.2) := by
  simp only [adjust, List.map_map]
  refine List.map_congr_left fun p _ => ?_
  simp only [Function.comp_apply]
  split
  · rw [hf]
  · rfl

/-- What was given for an entry changes its arguments only. -/
theorem eq_of_configureEntry {m : CommandLine.Matches} {e e' : RegistryEntry}
    {given : Option (List Arg)} (h : configureEntry m name e = .ok (e', given)) :
    ∃ args, e' = { e with args := args } := by
  unfold configureEntry at h
  split at h
  · cases h; exact ⟨e.args, rfl⟩
  · split at h
    · cases h
    · rename_i s _
      cases hc : s.configure _ with
      | error err => rw [hc] at h; cases h
      | ok s' => rw [hc] at h; cases h; exact ⟨some s', rfl⟩

/-- All of an entry but its arguments stays. -/
theorem map_configureAll {β : Type} {f : RegistryEntry → β}
    (hf : ∀ e args, f { e with args := args } = f e) (m : CommandLine.Matches) :
    ∀ t : SortedTable String RegistryEntry,
      (configureAll m t).1.map (fun p => (p.1, f p.2)) = t.map fun p => (p.1, f p.2)
  | [] => rfl
  | (name, e) :: rest => by
    have ih := map_configureAll hf m rest
    unfold configureAll
    split
    · rfl
    · rename_i e' given hc
      obtain ⟨args, rfl⟩ := eq_of_configureEntry hc
      simp only [List.map_cons, hf, ih]

/-- What is in the entries but for their arguments and whether they are enabled. -/
def fixed (r : Registry) : List (String × Scraper × Bool) :=
  r.entries.map fun p => (p.1, p.2.scraper, p.2.enabledDefault)

theorem scrapers_eq_of_fixed (h : r'.fixed = r.fixed) : r'.scrapers = r.scrapers := by
  simpa [fixed, scrapers, Function.comp_def] using congrArg (List.map fun q => (q.1, q.2.1)) h

theorem flags_eq_of_fixed (h : r'.fixed = r.fixed) : r'.flags = r.flags := by
  have hflags : ∀ r : Registry,
      r.flags = r.fixed.flatMap fun q => flagsOf ⟨q.2.1, q.2.2, false, none⟩ := fun r => by
    simp [flags, fixed, values, List.flatMap_map]
    rfl
  rw [hflags, hflags, h]

theorem fixed_onParsed (m : CommandLine.Matches) (r : Registry) :
    (r.onParsed m).2.fixed = r.fixed := by
  have hc :=
    map_configureAll (f := fun e => (e.scraper, e.enabledDefault)) (fun _ _ => rfl) m r.entries
  unfold onParsed
  split
  · rfl
  · rfl
  · rfl
  · split
    · rename_i h; rw [h] at hc; exact hc
    · rename_i h
      rw [h] at hc
      simp only [fixed, ← hc, List.map_map]
      rfl

theorem fixed_configure {args : List Arg} (h : r.configure name args = .ok r') :
    r'.fixed = r.fixed := by
  unfold configure at h
  split at h
  · cases h
  · split at h
    · split at h
      · cases h
      · rename_i s _
        cases h
        exact map_adjust (f := fun e => (e.scraper, e.enabledDefault))
          (fun e => { e with args := some s }) (fun _ => rfl) r.entries
    · cases h; rfl
    · cases h

theorem fixed_setEnabled {enabled : Bool} (h : r.setEnabled name enabled = .ok r') :
    r'.fixed = r.fixed := by
  unfold setEnabled at h
  split at h
  · cases h
  split at h
  · cases h
  · cases h
    exact map_adjust (f := fun e => (e.scraper, e.enabledDefault))
      (fun e => { e with enabled := enabled }) (fun _ => rfl) r.entries

theorem init_eq_ok {flags : List CommandLine.Flag} : r.init = .ok (flags, r') ↔
    r.state = .uninitialized ∧ r.flags = flags ∧ { r with state := .flagsPending } = r' := by
  by_cases hs : r.state = .uninitialized <;> simp [init, hs]

theorem fixed_init {flags : List CommandLine.Flag} (h : r.init = .ok (flags, r')) :
    r'.fixed = r.fixed := by
  obtain ⟨-, -, rfl⟩ := init_eq_ok.1 h
  rfl

theorem state_configure {args : List Arg} (h : r.configure name args = .ok r') :
    r'.state = r.state := by
  unfold configure at h
  split at h
  · cases h
  · split at h
    · split at h <;> cases h
      rfl
    · cases h; rfl
    · cases h

theorem state_setEnabled {enabled : Bool} (h : r.setEnabled name enabled = .ok r') :
    r'.state = r.state := by
  unfold setEnabled at h
  split at h
  · cases h
  split at h <;> cases h
  rfl

theorem WellFormed.of_scrapers (hw : WellFormed allowed r) (h : r'.scrapers = r.scrapers) :
    WellFormed allowed r' := ⟨h ▸ hw.ascending, h ▸ hw.named, h ▸ hw.allowed⟩

theorem Reachable.wellFormed (h : Reachable allowed r) : WellFormed allowed r := by
  induction h with
  | empty => exact .of_empty rfl
  | register _ hs hr ih => exact scrapers_register ih hs hr
  | init _ hr ih => exact ih.of_scrapers (scrapers_eq_of_fixed (fixed_init hr))
  | onParsed m _ ih => exact ih.of_scrapers (scrapers_eq_of_fixed (fixed_onParsed m _))
  | configure _ hr ih => exact ih.of_scrapers (scrapers_eq_of_fixed (fixed_configure hr))
  | setEnabled _ hr ih => exact ih.of_scrapers (scrapers_eq_of_fixed (fixed_setEnabled hr))
  | teardown _ _ => exact .of_empty rfl

/-- While a command line is waited for, the flags are those that have been bound. -/
theorem Reachable.exists_init (h : Reachable allowed r) (hs : r.state = .flagsPending) :
    ∃ r₀ r₁, Reachable allowed r₀ ∧ r₀.init = .ok (r.flags, r₁) := by
  induction h with
  | empty => cases hs
  | register _ _ hr =>
    obtain ⟨hu, -, -, rfl⟩ := register_eq_ok.1 hr
    cases hu.symm.trans hs
  | init h hr =>
    obtain ⟨-, rfl, rfl⟩ := init_eq_ok.1 hr
    exact ⟨_, _, h, hr⟩
  | @onParsed r m _ ih =>
    have hpending : r.state = .flagsPending := by
      unfold Registry.onParsed at hs
      split at hs
      · rename_i hu; cases hu.symm.trans hs
      · rename_i hr; cases hr.symm.trans hs
      · rename_i ht; cases ht.symm.trans hs
      · rename_i hp; exact hp
    exact flags_eq_of_fixed (fixed_onParsed m r) ▸ ih hpending
  | configure _ hr ih =>
    exact flags_eq_of_fixed (fixed_configure hr) ▸ ih (state_configure hr ▸ hs)
  | setEnabled _ hr ih =>
    exact flags_eq_of_fixed (fixed_setEnabled hr) ▸ ih (state_setEnabled hr ▸ hs)
  | teardown => cases hs

theorem reachable_registryOf {list : List (Scraper × Bool)} (h : ∀ p ∈ list, allowed p.1) :
    Reachable allowed (Collector.registryOf list) := by
  refine List.foldlRecOn list _ (motive := Reachable allowed) .empty fun r hr p hp => ?_
  dsimp only
  split
  · rename_i heq
    exact .register hr (h p hp) heq
  · exact hr

/-! ## Entries in order -/

/-- The entries of some scrapers, in the order of their names. -/
def InOrder (entries : List RegistryEntry) : Prop :=
  Ascending (entries.map fun e => (e.scraper.name, e))

theorem InOrder.sublist {entries few : List RegistryEntry} (h : InOrder entries)
    (hs : few.Sublist entries) : InOrder few := Ascending.sublist h (hs.map _)

/-- Entries in order are known by their members. -/
theorem InOrder.ext {xs ys : List RegistryEntry} (hx : InOrder xs) (hy : InOrder ys)
    (h : ∀ x, x ∈ xs ↔ x ∈ ys) : xs = ys := by
  have hpairs : xs.map (fun e => (e.scraper.name, e)) = ys.map fun e => (e.scraper.name, e) := by
    refine eq_of_find? hx hy fun k => Option.ext fun v => ?_
    rw [find?_eq_some hx, find?_eq_some hy]
    simp only [List.mem_map, h]
  simpa [Function.comp_def] using congrArg (List.map Prod.snd) hpairs

theorem InOrder.nodup_names {entries : List RegistryEntry} (h : InOrder entries) :
    (entries.map (·.scraper.name)).Nodup := by
  have hkeys := Ascending.nodup_keys h
  simpa [keys, Function.comp_def] using hkeys

/-- A table whose keys are the names of its scrapers is made by them. -/
theorem values_named {t : SortedTable String RegistryEntry}
    (hn : ∀ p ∈ t, p.2.scraper.name = p.1) :
    (values t).map (fun e => (e.scraper.name, e)) = t := by
  rw [values, List.map_map]
  refine (List.map_congr_left fun p hp => ?_).trans (List.map_id _)
  exact Prod.ext (hn p hp) rfl

theorem inOrder_values {t : SortedTable String RegistryEntry} (ha : Ascending t)
    (hn : ∀ p ∈ t, p.2.scraper.name = p.1) : InOrder (values t) := by
  rw [InOrder, values_named hn]
  exact ha

theorem WellFormed.entries_ascending (hw : WellFormed allowed r) : Ascending r.entries :=
  List.pairwise_map.1 hw.ascending

theorem WellFormed.entries_named (hw : WellFormed allowed r) :
    ∀ p ∈ r.entries, p.2.scraper.name = p.1 :=
  fun _ hp => hw.named _ (List.mem_map_of_mem hp)

theorem WellFormed.entries_inOrder (hw : WellFormed allowed r) : InOrder (values r.entries) :=
  inOrder_values hw.entries_ascending hw.entries_named

theorem WellFormed.find?_name (hw : WellFormed allowed r) {e : RegistryEntry}
    (h : find? name r.entries = some e) : e.scraper.name = name :=
  hw.entries_named _ (mem_of_find? h)

/-- A registered scraper is found under its name. -/
theorem WellFormed.find?_entry (hw : WellFormed allowed r) {e : RegistryEntry}
    (h : e ∈ values r.entries) : find? e.scraper.name r.entries = some e := by
  refine hw.entries_ascending.find? ?_
  rw [← values_named hw.entries_named]
  exact List.mem_map_of_mem h

end Registry
end MysqlMetrics
