import Mathlib.Data.List.Induction
import MysqlMetrics.Http.Query
import MysqlMetrics.Proofs.Form
import MysqlMetrics.Proofs.Scrape.Refusal
/-!
# What a query asks for

A query is a form. Its `collect[]` parameters name scrapers, one or several in each, and `target` a
server; whatever else stands in it does not matter (`ScrapeQuery.ofPairs_eq`). So a list of names
that is put into a query, in any groups and however it is written, selects the scrapers of these
names (`ScrapeQuery.select_of_form`).
-/
namespace MysqlMetrics

namespace ScrapeQuery

variable {pairs : List (String × String)} {names : List String} {value : String}

/-! ## Parameters -/

/-- The values of a parameter, in their order. -/
def valuesOf (key : String) (pairs : List (String × String)) : List String :=
  pairs.filterMap fun p => if p.1 = key then some p.2 else none

/-- The last target that is not empty. -/
def lastTarget? (pairs : List (String × String)) : Option String :=
  ((valuesOf "target" pairs).filter (!·.isEmpty)).getLast?

/-- What is not a name of a scraper or of a target leaves a query as it is. -/
theorem add_eq (q : ScrapeQuery) (p : String × String) :
    q.add p = ⟨q.collect ++ valuesOf "collect[]" [p], (lastTarget? [p]).or q.target⟩ := by
  obtain ⟨key, value⟩ := p
  unfold add valuesOf lastTarget? valuesOf
  split
  · rename_i heq
    cases heq
    simp
  · rename_i heq
    cases heq
    by_cases he : value.isEmpty = true <;> simp [he]
  · rename_i hcollect htarget
    have hc : key ≠ "collect[]" := fun h => hcollect value (by rw [h])
    have ht : key ≠ "target" := fun h => htarget value (by rw [h])
    simp [hc, ht]

theorem ofPairs_eq (pairs : List (String × String)) :
    ofPairs pairs = ⟨valuesOf "collect[]" pairs, lastTarget? pairs⟩ := by
  unfold ofPairs
  induction pairs using List.reverseRecOn with
  | nil => rfl
  | append_singleton pairs p ih =>
    have hlast : lastTarget? (pairs ++ [p]) = (lastTarget? [p]).or (lastTarget? pairs) := by
      simp [lastTarget?, valuesOf, List.filterMap_append, List.getLast?_append]
    rw [List.foldl_append, ih, List.foldl_cons, List.foldl_nil, add_eq, hlast, valuesOf, valuesOf,
      valuesOf, List.filterMap_append]

/-! ## Names in parameters -/

/-- A name with blanks around it. -/
def IsPadded (name piece : String) : Prop :=
  ∃ before after : String, (∀ c ∈ before.toList, Text.isBlank c = true) ∧
    (∀ c ∈ after.toList, Text.isBlank c = true) ∧ piece = before ++ name ++ after

/-- One or several names with commas between. -/
def Lists (names : List String) (value : String) : Prop :=
  names ≠ [] ∧ ∃ pieces, List.Forall₂ IsPadded names pieces ∧ value = ",".intercalate pieces

/-- Parameters ask for names if their `collect[]`, one after the other, list them in groups. -/
def AsksFor (pairs : List (String × String)) (names : List String) : Prop :=
  ∃ groups, List.Forall₂ Lists groups (valuesOf "collect[]" pairs) ∧ groups.flatten = names

theorem blank_of_isName {name : String} (h : Registry.IsName name) :
    (∀ c ∈ name.toList, Text.isBlank c = false) ∧ ',' ∉ name.toList := by
  have hchar : ∀ c ∈ name.toList, 45 < c.toNat ∧ c.toNat < 127 := by
    intro c hc
    have hle : ∀ a b : Char, a ≤ b ↔ a.toNat ≤ b.toNat := fun _ _ => Iff.rfl
    have := h.2 c hc
    simp only [hle] at this
    rcases this with ⟨hlow, hhigh⟩ | ⟨hlow, hhigh⟩ | ⟨hlow, hhigh⟩ | rfl | rfl
    · have hlow : 65 ≤ c.toNat := hlow
      have hhigh : c.toNat ≤ 90 := hhigh
      omega
    · have hlow : 97 ≤ c.toNat := hlow
      have hhigh : c.toNat ≤ 122 := hhigh
      omega
    · have hlow : 48 ≤ c.toNat := hlow
      have hhigh : c.toNat ≤ 57 := hhigh
      omega
    · decide
    · decide
  refine ⟨fun c hc => ?_, fun hc => ?_⟩
  · obtain ⟨hlow, hhigh⟩ := hchar c hc
    exact Text.isBlank_ascii (by omega) hhigh
  · obtain ⟨hlow, -⟩ := hchar ',' hc
    exact absurd hlow (by decide)

theorem IsPadded.of_isName {name piece : String} (h : IsPadded name piece)
    (hn : Registry.IsName name) : Text.trim piece = name ∧ ',' ∉ piece.toList := by
  obtain ⟨before, after, hb, ha, rfl⟩ := h
  obtain ⟨hblank, hcomma⟩ := blank_of_isName hn
  have hno : ∀ cs : List Char, (∀ c ∈ cs, Text.isBlank c = true) → ',' ∉ cs := by
    intro cs hcs hmem
    exact absurd (hcs ',' hmem) (by decide)
  refine ⟨Text.trim_between hb ha hblank, ?_⟩
  simp only [String.toList_append, List.mem_append, not_or]
  exact ⟨⟨hno _ hb, hcomma⟩, hno _ ha⟩

/-- What lists names is read as these names. -/
theorem Lists.names_eq (h : Lists names value) (hn : ∀ name ∈ names, Registry.IsName name) :
    ScrapeRequest.names [value] = names := by
  obtain ⟨hne, pieces, hpieces, rfl⟩ := h
  have hboth : pieces.map Text.trim = names ∧ ∀ piece ∈ pieces, ',' ∉ piece.toList := by
    clear hne
    induction hpieces with
    | nil => simp
    | cons hp _ ih =>
      obtain ⟨hname, hnames⟩ := List.forall_mem_cons.1 hn
      obtain ⟨htrim, hcomma⟩ := hp.of_isName hname
      obtain ⟨hmap, hplain⟩ := ih hnames
      exact ⟨by rw [List.map_cons, htrim, hmap], List.forall_mem_cons.2 ⟨hcomma, hplain⟩⟩
  have hcut : Text.IsCut ',' (",".intercalate pieces) pieces := by
    refine ⟨?_, hboth.2, rfl⟩
    rintro rfl
    exact hne hboth.1.symm
  have hkeep : ∀ name ∈ names, (!name.isEmpty) = true := by
    intro name hname
    simpa using (hn name hname).1
  simp only [ScrapeRequest.names, List.flatMap_cons, List.flatMap_nil, List.append_nil,
    Text.isCut_iff.1 hcut, hboth.1]
  exact List.filter_eq_self.2 hkeep

theorem AsksFor.names_eq (h : AsksFor pairs names) (hn : ∀ name ∈ names, Registry.IsName name) :
    ScrapeRequest.names (valuesOf "collect[]" pairs) = names := by
  obtain ⟨groups, hgroups, rfl⟩ := h
  generalize valuesOf "collect[]" pairs = values at hgroups
  induction hgroups with
  | nil => rfl
  | @cons group value groups values hg _ ih =>
    rw [List.flatten_cons] at hn
    have hfirst := hg.names_eq fun name hname => hn name (List.mem_append_left _ hname)
    have hrest := ih fun name hname => hn name (List.mem_append_right _ hname)
    have hsplit : ScrapeRequest.names (value :: values) =
        ScrapeRequest.names [value] ++ ScrapeRequest.names values := by
      simp [ScrapeRequest.names]
    rw [hsplit, hfirst, hrest, List.flatten_cons]

/-! ## Selections -/

/-- **Selecting by a query.** Names of scrapers that parameters ask for, in whatever groups and with
whatever parameters between, can be put into a query; and however it is written, it selects the
scrapers of these names, each once and in the order of names, unless a name is not registered: then
the first such name is refused. The target is the last that is not empty. -/
theorem select_of_form {e : Exporter} {allowed : Scraper → Prop} (hr : e.registry.Reachable allowed)
    (hne : names ≠ []) (hn : ∀ name ∈ names, Registry.IsName name) (hasks : AsksFor pairs names) :
    Percent.IsForm pairs (Percent.formString pairs) ∧
    ∀ query, Percent.IsForm pairs query →
      (parse (some query)).target = lastTarget? pairs ∧
      (∀ name, names.find? (fun name => (e.registry.lookup name).isNone) = some name →
        e.select (parse (some query)).collect = .error (.unknownScraper name)) ∧
      ((∀ name ∈ names, ∃ x, e.registry.lookup name = some x) →
        ∃ entries, e.select (parse (some query)).collect = .ok entries ∧ Registry.InOrder entries ∧
          ∀ x, x ∈ entries ↔ ∃ name ∈ names, e.registry.lookup name = some x) := by
  refine ⟨Percent.isForm_formString pairs, fun query hq => ?_⟩
  have hparse : parse (some query) = ⟨valuesOf "collect[]" pairs, lastTarget? pairs⟩ := by
    rw [parse, Option.getD_some, Percent.formPairs_of_isForm hq, ofPairs_eq]
  have hnames := hasks.names_eq hn
  rw [hparse]
  refine ⟨rfl, fun name hunknown => ?_, fun hknown => ?_⟩
  · refine Exporter.select_eq_error.2 ⟨name, ?_, rfl⟩
    rw [Exporter.firstUnknown?, hnames]
    exact hunknown
  · obtain ⟨entries, hs⟩ : ∃ entries, e.select (valuesOf "collect[]" pairs) = .ok entries := by
      rw [Exporter.exists_select_iff, hnames]
      intro name hname
      obtain ⟨x, hx⟩ := hknown name hname
      rw [hx]
      rfl
    obtain ⟨hin, hmem⟩ := Exporter.select_spec hr.wellFormed hs
    refine ⟨entries, hs, hin, fun x => ?_⟩
    rw [hmem, Exporter.Selects, hnames, if_neg hne]
    constructor
    · rintro ⟨hx, hname⟩
      exact ⟨x.scraper.name, hname, hr.wellFormed.find?_entry hx⟩
    · rintro ⟨name, hname, hx⟩
      have hbears : x.scraper.name = name := hr.wellFormed.find?_name hx
      exact ⟨List.mem_map.2 ⟨_, SortedTable.mem_of_find? hx, rfl⟩, hbears ▸ hname⟩

/-- Two groups with a stranger between them, and two targets, the last of them empty. -/
def grouped : List (String × String) :=
  [("collect[]", " b ,a"), ("module", "x&y"), ("target", "replica"), ("collect[]", "b"),
    ("target", "")]

theorem asksFor_grouped : AsksFor grouped ["b", "a", "b"] := by
  have hpad : ∀ before name after : String, before.toList.all Text.isBlank = true →
      after.toList.all Text.isBlank = true → IsPadded name (before ++ name ++ after) := by
    intro before name after hb ha
    exact ⟨before, after, List.all_eq_true.1 hb, List.all_eq_true.1 ha, rfl⟩
  have hb : IsPadded "b" " b " := hpad " " "b" " " (by decide) (by decide)
  have ha : IsPadded "a" "a" := hpad "" "a" "" (by decide) (by decide)
  have hb' : IsPadded "b" "b" := hpad "" "b" "" (by decide) (by decide)
  refine ⟨[["b", "a"], ["b"]], .cons ⟨by simp, _, .cons hb (.cons ha .nil), rfl⟩ ?_, rfl⟩
  exact .cons ⟨by simp, _, .cons hb' .nil, rfl⟩ .nil

theorem select_of_form_grouped :
    (parse (some (Percent.formString grouped))).target = some "replica" ∧
      ∃ entries, entries.map (·.scraper.name) = ["a", "b"] ∧
        (Exporter.ofTasks [("b", .done), ("c", .done), ("a", .done)]).select
          (parse (some (Percent.formString grouped))).collect = .ok entries := by
  have hvalid : ∀ name ∈ ["b", "a", "b"], Registry.isValidName name = true := by decide
  obtain ⟨hform, hread⟩ := select_of_form
    (Exporter.reachable_ofTasks [("b", .done), ("c", .done), ("a", .done)]) (by simp)
    (fun name hname => Registry.isValidName_iff.1 (hvalid name hname)) asksFor_grouped
  obtain ⟨htarget, -, hselect⟩ := hread _ hform
  have hknown : ∀ name ∈ ["b", "a", "b"], ∃ x,
      (Exporter.ofTasks [("b", .done), ("c", .done), ("a", .done)]).registry.lookup name =
        some x := by
    intro name hname
    simp only [List.mem_cons, List.not_mem_nil, or_false] at hname
    rcases hname with rfl | rfl | rfl
    · exact ⟨_, rfl⟩
    · exact ⟨_, rfl⟩
    · exact ⟨_, rfl⟩
  obtain ⟨entries, hs, -, -⟩ := hselect hknown
  refine ⟨htarget, entries, ?_, hs⟩
  have hcollect : (parse (some (Percent.formString grouped))).collect = [" b ,a", "b"] := by
    decide +kernel
  rw [hcollect] at hs
  cases hs
  rfl

end ScrapeQuery
end MysqlMetrics
