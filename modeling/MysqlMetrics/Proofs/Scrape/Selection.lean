import MysqlMetrics.Exporter
import MysqlMetrics.Proofs.Registry
import MysqlMetrics.Proofs.Results
/-!
# Selections

A request is accepted if it names scrapers and a target that are known (`Exporter.resolve_eq_ok`).
What it then asks for is a matter of single scrapers (`Exporter.Selects`): the enabled ones if it
names none, and otherwise those that it names, enabled or not, each once and in the order of names
whatever order it names them in (`Exporter.select_spec`).
-/
namespace MysqlMetrics

open SortedTable

/-! ## Versions -/

namespace Version

/-- The order of versions: by the first number that differs. -/
def AtMost (a b : Version) : Prop :=
  a.major < b.major ∨ a.major = b.major ∧
    (a.minor < b.minor ∨ a.minor = b.minor ∧ a.patch ≤ b.patch)

instance : DecidableRel AtMost := fun _ _ => inferInstanceAs (Decidable (_ ∨ _))

theorem isLE_compare {a b : Version} : (compare a b).isLE = true ↔ a.AtMost b := by
  have hle : ∀ x y : Nat, (compare x y).isLE = true ↔ x ≤ y := fun x y => Nat.isLE_compare
  have hthen : ∀ (x y : Nat) (o : Ordering),
      ((compare x y).then o).isLE = true ↔ x < y ∨ x = y ∧ o.isLE = true := by
    intro x y o
    rcases Nat.lt_trichotomy x y with h | h | h
    · simp [Nat.compare_eq_lt.2 h, h]
    · simp [h]
    · have hgt : compare x y = .gt := Nat.compare_eq_gt.2 h
      simp [hgt, show ¬ x < y by omega, show ¬ x = y by omega]
  have hc : compare a b =
      (compare a.major b.major).then ((compare a.minor b.minor).then (compare a.patch b.patch)) :=
    rfl
  rw [hc, hthen, hthen, hle, AtMost]

end Version

namespace Exporter

variable {σ : Type} {e : Exporter} {c : Connector σ} {r : ScrapeRequest} {collect : List String}
  {entries : List RegistryEntry} {allowed : Scraper → Prop}

theorem mem_eligible {s : Server} {x : RegistryEntry} : x ∈ eligible s entries ↔
    x ∈ entries ∧ x.scraper.minVersion.AtMost s.info.version := by
  rw [eligible, List.mem_filter, Version.isLE_compare]

/-! ## What a request asks for -/

/-- Does a selection ask for a registered scraper? Without names it asks for the enabled ones, which
only a registry that is ready can tell. -/
def Selects (e : Exporter) (collect : List String) (x : RegistryEntry) : Prop :=
  x ∈ values e.registry.entries ∧
    if ScrapeRequest.names collect = [] then e.registry.isReady = true ∧ x.enabled = true
    else x.scraper.name ∈ ScrapeRequest.names collect

/-- Are the names of a request, and its target, known? -/
def Accepts (e : Exporter) (c : Connector σ) (r : ScrapeRequest) : Prop :=
  (∀ name ∈ ScrapeRequest.names r.collect, (e.registry.lookup name).isSome = true) ∧
    ∀ t, r.target = some t → c.hasTarget t = true

instance : Decidable (e.Accepts c r) :=
  decidable_of_iff
    ((ScrapeRequest.names r.collect).all (fun name => (e.registry.lookup name).isSome) ∧
    r.target.all c.hasTarget) (by simp [Accepts, Option.all_eq_true])

/-- What is found under a name, or that there is nothing. -/
def found (e : Exporter) (name : String) : Except ScrapeError (String × RegistryEntry) :=
  match e.registry.lookup name with
  | some entry => .ok (name, entry)
  | none => .error (.unknownScraper name)

theorem found_eq_ok {name : String} {p : String × RegistryEntry} :
    e.found name = .ok p ↔ p.1 = name ∧ find? name e.registry.entries = some p.2 := by
  obtain ⟨n, x⟩ := p
  unfold found Registry.lookup
  cases find? name e.registry.entries with
  | none => simp
  | some y => simp [eq_comm]

theorem select_of_names (h : ScrapeRequest.names collect ≠ []) : e.select collect =
    ((ScrapeRequest.names collect).mapM e.found).map fun pairs => values (ofList pairs) := by
  unfold select
  split
  · contradiction
  · show ((ScrapeRequest.names collect).mapM e.found >>= fun pairs => _) = _
    cases (ScrapeRequest.names collect).mapM e.found <;> rfl

theorem exists_select_iff : (∃ entries, e.select collect = .ok entries) ↔
    ∀ name ∈ ScrapeRequest.names collect, (e.registry.lookup name).isSome = true := by
  by_cases hn : ScrapeRequest.names collect = []
  · simp [select, hn]
  · rw [select_of_names hn]
    constructor
    · rintro ⟨entries, h⟩ name hname
      cases hf : (ScrapeRequest.names collect).mapM e.found with
      | error err => rw [hf] at h; cases h
      | ok pairs =>
        obtain ⟨p, -, hp⟩ := exists_of_mapM_eq_ok hf hname
        simp [Registry.lookup, (found_eq_ok.1 hp).2]
    · intro h
      obtain ⟨pairs, hf⟩ := exists_mapM_eq_ok (f := e.found) fun name hname => by
        obtain ⟨x, hx⟩ := Option.isSome_iff_exists.1 (h name hname)
        exact ⟨(name, x), found_eq_ok.2 ⟨rfl, hx⟩⟩
      exact ⟨_, by rw [hf]; rfl⟩

theorem resolve_eq_ok : e.resolve c r = .ok entries ↔
    e.select r.collect = .ok entries ∧ ∀ t, r.target = some t → c.hasTarget t = true := by
  unfold resolve
  cases hs : e.select r.collect with
  | error err => simp [Except.bind]
  | ok found =>
    cases ht : r.target with
    | none => simp [Except.bind]
    | some t => by_cases hc : c.hasTarget t = true <;> simp [Except.bind, hc]

theorem exists_resolve_iff : (∃ entries, e.resolve c r = .ok entries) ↔ e.Accepts c r := by
  simp only [resolve_eq_ok, exists_and_right, exists_select_iff, Accepts]

/-- A selection gives the scrapers that it asks for, each once. -/
theorem select_spec (hw : e.registry.WellFormed allowed) (h : e.select collect = .ok entries) :
    Registry.InOrder entries ∧ ∀ x, x ∈ entries ↔ e.Selects collect x := by
  by_cases hn : ScrapeRequest.names collect = []
  · have hs : (e.registry.enabled.getD []) = entries := by simpa [select, hn] using h
    subst hs
    unfold Selects Registry.isReady Registry.enabled Registry.all
    cases e.registry.state.isSettled with
    | true => exact ⟨hw.entries_inOrder.sublist List.filter_sublist, by simp [hn]⟩
    | false => exact ⟨.nil, by simp [hn]⟩
  · rw [select_of_names hn] at h
    cases hf : (ScrapeRequest.names collect).mapM e.found with
    | error err => rw [hf] at h; cases h
    | ok pairs =>
      rw [hf] at h
      cases h
      obtain ⟨ha, hmem⟩ := ofList_spec pairs
      -- what is found under a name bears it, and is named
      have hfound : ∀ p ∈ ofList pairs, p.1 ∈ ScrapeRequest.names collect ∧
          find? p.1 e.registry.entries = some p.2 := by
        intro p hp
        obtain ⟨name, hname, hx⟩ := exists_of_mem_mapM hf (hmem p hp)
        obtain ⟨rfl, hx⟩ := found_eq_ok.1 hx
        exact ⟨hname, hx⟩
      have hnamed : ∀ p ∈ ofList pairs, p.2.scraper.name = p.1 := fun p hp =>
        hw.find?_name (hfound p hp).2
      refine ⟨Registry.inOrder_values ha hnamed, fun x => ⟨fun hx => ?_, fun hx => ?_⟩⟩
      · obtain ⟨p, hp, rfl⟩ := List.mem_map.1 hx
        obtain ⟨hname, hx⟩ := hfound p hp
        rw [Selects, if_neg hn, hnamed p hp]
        exact ⟨List.mem_map.2 ⟨_, mem_of_find? hx, rfl⟩, hname⟩
      · rw [Selects, if_neg hn] at hx
        obtain ⟨hentry, hname⟩ := hx
        -- the name is a key of what was found, and the scraper is the only one of its name
        obtain ⟨p, hp, hpx⟩ := exists_of_mapM_eq_ok hf hname
        have hkey : x.scraper.name ∈ (ofList pairs).keys :=
          mem_keys_ofList.2 (List.mem_map.2 ⟨p, hp, (found_eq_ok.1 hpx).1⟩)
        obtain ⟨q, hq, hqx⟩ := List.mem_map.1 hkey
        have hlook := (hfound q hq).2
        rw [hqx, hw.find?_entry hentry] at hlook
        cases hlook
        exact List.mem_map.2 ⟨q, hq, rfl⟩

/-- Those run that a request selects and that the server is recent enough for. -/
theorem eligible_spec (hw : e.registry.WellFormed allowed) (s : Server)
    (h : e.resolve c r = .ok entries) :
    Registry.InOrder (eligible s entries) ∧ ∀ x, x ∈ eligible s entries ↔
      e.Selects r.collect x ∧ x.scraper.minVersion.AtMost s.info.version := by
  obtain ⟨hin, hmem⟩ := select_spec hw (resolve_eq_ok.1 h).1
  exact ⟨hin.sublist List.filter_sublist, fun x => by rw [mem_eligible, hmem]⟩

end Exporter
end MysqlMetrics
