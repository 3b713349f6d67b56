import Mathlib.Data.List.Lattice
import Mathlib.Data.List.Nodup
import Mathlib.Data.List.Pairwise
import MysqlMetrics.Proofs.Registry
/-!
# The names of flags

A scraper has a flag that turns it on, one that turns it off, and one for each argument. A dot joins
the name of a scraper and that of an argument, and either may have dots of its own. So two flags can
have one name: an argument `b` of `a` and a scraper `a.b`, or an argument `b.c` of `a` and an
argument `c` of `a.b`. Registration does not look for such a `Clash`; it is the only way in which
names of flags can meet (`flag_names_nodup_iff`).
-/
namespace MysqlMetrics

open SortedTable

namespace Registry

variable {allowed : Scraper → Prop} {r : Registry} {x y : Scraper} {name arg : String}

/-! ## The flags of one scraper -/

def flagNames (s : Scraper) : List String :=
  enableFlag s.name :: disableFlag s.name :: (argNames s).map (argFlag s.name)

theorem enableFlag_mem : enableFlag x.name ∈ flagNames x := List.mem_cons_self

theorem argFlag_mem (h : arg ∈ argNames x) : argFlag x.name arg ∈ flagNames x :=
  List.mem_cons_of_mem _ (List.mem_cons_of_mem _ (List.mem_map_of_mem h))

theorem name_flagOfArg (d : ArgDefinition) : (flagOfArg name d).name = argFlag name d.name := by
  unfold flagOfArg
  cases d.kind <;> rfl

theorem names_flagsOf (e : RegistryEntry) : (flagsOf e).map (·.name) = flagNames e.scraper := by
  simp [flagsOf, flagNames, argNames, declared, name_flagOfArg, Function.comp_def]

theorem names_flags : r.flags.map (·.name) = (values r.scrapers).flatMap flagNames := by
  simp [flags, scrapers, values, List.map_flatMap, names_flagsOf, List.flatMap_map]

@[simp] theorem enableFlag_inj {m n : String} : enableFlag m = enableFlag n ↔ m = n :=
  String.append_right_inj _

@[simp] theorem disableFlag_inj {m n : String} : disableFlag m = disableFlag n ↔ m = n :=
  String.append_right_inj _

theorem argFlag_eq : argFlag name arg = enableFlag (name ++ "." ++ arg) := by
  simp [argFlag, enableFlag, String.append_assoc]

@[simp] theorem enableFlag_ne_disableFlag {m n : String} : enableFlag m ≠ disableFlag n := by
  intro h
  have hfirst := congrArg (fun s : String => s.toList.head?) h
  simp [enableFlag, disableFlag] at hfirst

@[simp] theorem argFlag_ne_disableFlag {n : String} : argFlag name arg ≠ disableFlag n :=
  argFlag_eq ▸ enableFlag_ne_disableFlag

theorem append_dot_ne (name rest : String) : name ++ "." ++ rest ≠ name := by
  intro h
  have hlength := congrArg String.length h
  simp only [String.length_append, show ".".length = 1 from rfl] at hlength
  omega

theorem argFlag_ne_enableFlag : argFlag name arg ≠ enableFlag name := by
  rw [argFlag_eq, Ne, enableFlag_inj]
  exact append_dot_ne name arg

theorem argFlag_injective : Function.Injective (argFlag name) := fun _ _ h =>
  (String.append_right_inj _).1 h

theorem flagNames_nodup (h : Registrable x) : (flagNames x).Nodup := by
  have hargs : ((argNames x).map (argFlag x.name)).Nodup := h.distinct.map argFlag_injective
  refine List.nodup_cons.2 ⟨fun hmem => ?_, List.nodup_cons.2 ⟨fun hmem => ?_, hargs⟩⟩
  · rcases List.mem_cons.1 hmem with h | h
    · exact enableFlag_ne_disableFlag h
    · obtain ⟨arg, -, h⟩ := List.mem_map.1 h
      exact argFlag_ne_enableFlag h
  · obtain ⟨arg, -, h⟩ := List.mem_map.1 hmem
    exact argFlag_ne_disableFlag h

/-! ## The flags of two scrapers -/

/-- A flag for an argument of `x` is also the one that turns `y` on, or one for an argument of
`y`. -/
def Clash (x y : Scraper) : Prop :=
  ∃ rest, y.name = x.name ++ "." ++ rest ∧
    (rest ∈ argNames x ∨ ∃ arg ∈ argNames y, rest ++ "." ++ arg ∈ argNames x)

theorem not_clash_self : ¬ Clash x x := fun ⟨rest, h, _⟩ => append_dot_ne x.name rest h.symm

/-- Of two joined names that are equal the longer first part goes on with a dot. -/
theorem append_dot_eq {m n a b : String} (h : m ++ "." ++ a = n ++ "." ++ b) (hne : m ≠ n) :
    (∃ rest, n = m ++ "." ++ rest ∧ a = rest ++ "." ++ b) ∨
      ∃ rest, m = n ++ "." ++ rest ∧ b = rest ++ "." ++ a := by
  have hlists : m.toList ++ '.' :: a.toList = n.toList ++ '.' :: b.toList := by
    simpa using congrArg String.toList h
  have key : ∀ {m n a b : String}, ∀ cs, n.toList = m.toList ++ cs →
      '.' :: a.toList = cs ++ '.' :: b.toList → m ≠ n →
        ∃ rest, n = m ++ "." ++ rest ∧ a = rest ++ "." ++ b := by
    intro m n a b cs hn ha hne
    cases cs with
    | nil => exact absurd (String.toList_inj.1 (by simpa using hn)).symm hne
    | cons c cs =>
      obtain ⟨rfl, ha⟩ := List.cons.inj ha
      exact ⟨.ofList cs, String.toList_inj.1 (by simpa using hn),
        String.toList_inj.1 (by simpa using ha)⟩
  rcases List.append_eq_append_iff.1 hlists with ⟨cs, hn, ha⟩ | ⟨cs, hm, hb⟩
  · exact .inl (key cs hn ha hne)
  · exact .inr (key cs hm hb hne.symm)

theorem argFlag_eq_argFlag {m n a b : String} (h : argFlag m a = argFlag n b) (hne : m ≠ n) :
    (∃ rest, n = m ++ "." ++ rest ∧ a = rest ++ "." ++ b) ∨
      ∃ rest, m = n ++ "." ++ rest ∧ b = rest ++ "." ++ a :=
  append_dot_eq (by simpa [argFlag_eq] using h) hne

/-- A name that both have makes them clash, one way or the other. -/
theorem clash_of_mem (hne : x.name ≠ y.name) {flag : String} (hx : flag ∈ flagNames x)
    (hy : flag ∈ flagNames y) : Clash x y ∨ Clash y x := by
  have hcase : ∀ {x y : Scraper} {arg : String}, arg ∈ argNames x →
      argFlag x.name arg = enableFlag y.name → Clash x y := fun harg h =>
    ⟨_, (enableFlag_inj.1 (argFlag_eq ▸ h)).symm, .inl harg⟩
  simp only [flagNames, List.mem_cons, List.mem_map] at hx hy
  rcases hx with rfl | rfl | ⟨a, ha, rfl⟩ <;> rcases hy with hy | hy | ⟨b, hb, hy⟩
  · exact absurd (enableFlag_inj.1 hy) hne
  · exact absurd hy enableFlag_ne_disableFlag
  · exact .inr (hcase hb hy)
  · exact absurd hy.symm enableFlag_ne_disableFlag
  · exact absurd (disableFlag_inj.1 hy) hne
  · exact absurd hy argFlag_ne_disableFlag
  · exact .inl (hcase ha hy)
  · exact absurd hy argFlag_ne_disableFlag
  · rcases argFlag_eq_argFlag hy.symm hne with ⟨rest, hn, rfl⟩ | ⟨rest, hn, rfl⟩
    · exact .inl ⟨rest, hn, .inr ⟨b, hb, ha⟩⟩
    · exact .inr ⟨rest, hn, .inr ⟨a, ha, hb⟩⟩

theorem exists_mem_of_clash (h : Clash x y) : ∃ flag ∈ flagNames x, flag ∈ flagNames y := by
  obtain ⟨rest, hn, hrest | ⟨arg, harg, hrest⟩⟩ := h
  · refine ⟨_, argFlag_mem hrest, ?_⟩
    rw [argFlag_eq, ← hn]
    exact enableFlag_mem
  · refine ⟨_, argFlag_mem hrest, ?_⟩
    have hsame : argFlag x.name (rest ++ "." ++ arg) = argFlag y.name arg := by
      simp [argFlag_eq, hn, String.append_assoc]
    rw [hsame]
    exact argFlag_mem harg

/-! ## The flags of a registry -/

theorem WellFormed.pairwise_name_ne (hw : r.WellFormed allowed) :
    (values r.scrapers).Pairwise fun x y => x.name ≠ y.name := by
  have hnames := hw.entries_inOrder.nodup_names
  have hvalues : (values r.scrapers).map (·.name) = (values r.entries).map (·.scraper.name) := by
    simp [values, scrapers, Function.comp_def]
  rwa [← hvalues, List.nodup_iff_pairwise_ne, List.pairwise_map] at hnames

/-- **The names of the flags are distinct if and only if no two scrapers clash**, whatever scrapers
have been registered and whatever was done since. -/
theorem flag_names_nodup_iff (h : Reachable allowed r) : (r.flags.map (·.name)).Nodup ↔
    ∀ x ∈ values r.scrapers, ∀ y ∈ values r.scrapers, ¬ Clash x y := by
  have hw := h.registrable.wellFormed
  have hown : ∀ x ∈ values r.scrapers, (flagNames x).Nodup := fun x hx => by
    obtain ⟨p, hp, rfl⟩ := List.mem_map.1 hx
    exact flagNames_nodup (hw.allowed p hp).2
  rw [names_flags, List.nodup_flatMap]
  constructor
  · rintro ⟨-, hdisjoint⟩ x hx y hy hclash
    have hne : x ≠ y := by rintro rfl; exact not_clash_self hclash
    obtain ⟨flag, hfx, hfy⟩ := exists_mem_of_clash hclash
    have : Std.Symm (Function.onFun List.Disjoint flagNames) := ⟨fun _ _ hd => hd.symm⟩
    exact hdisjoint.forall hx hy hne hfx hfy
  · intro hno
    refine ⟨hown, hw.pairwise_name_ne.imp_of_mem fun hx hy hne flag hfx hfy => ?_⟩
    exact (clash_of_mem hne hfx hfy).elim (hno _ hx _ hy) (hno _ hy _ hx)

/-- A scraper that takes texts as arguments and does nothing. -/
def idle (name : String) (args : List String) : Scraper :=
  { name := name, help := "", task := fun _ _ => .done
    definitions := some (args.map fun arg => ⟨arg, "", .string ""⟩) }

/-- An argument of one scraper is joined to the name of another. -/
def dotted : Registry := Collector.registryOf [(idle "a" ["b"], true), (idle "a.b" [], false)]

theorem dotted_flag_names : dotted.flags.map (·.name) =
    ["collect.a", "no-collect.a", "collect.a.b", "collect.a.b", "no-collect.a.b"] ∧
      ¬ (dotted.flags.map (·.name)).Nodup := by
  refine ⟨by decide, fun hnodup => ?_⟩
  have hreach : Reachable (fun _ => True) dotted := reachable_registryOf fun _ _ => trivial
  exact (flag_names_nodup_iff hreach).1 hnodup (idle "a" ["b"]) (.head _) (idle "a.b" [])
    (.tail _ (.head _)) ⟨"b", rfl, .inl (.head _)⟩

/-- Where no name is that of another with more behind a dot, nothing clashes. -/
theorem not_clash_of_names (h : ¬ (x.name ++ ".").toList <+: y.name.toList) : ¬ Clash x y := by
  rintro ⟨rest, hn, -⟩
  exact h ⟨rest.toList, by simp [hn]⟩

/-- The built-in scrapers do not clash. -/
theorem builtin_flag_names_nodup (usage : Collector.SelfUsage.Usage) :
    ((Collector.defaultRegistry usage).flags.map (·.name)).Nodup := by
  have hreach : Reachable (fun s => s.name ∈ (Collector.builtin usage).map (·.1.name))
      (Collector.defaultRegistry usage) :=
    reachable_registryOf fun p hp => List.mem_map_of_mem (f := fun p => p.1.name) hp
  have hnames : (Collector.builtin usage).map (·.1.name) =
      (Collector.builtin ⟨none, ⟨0, 0, 0⟩⟩).map (·.1.name) := rfl
  have hapart : ∀ m ∈ (Collector.builtin ⟨none, ⟨0, 0, 0⟩⟩).map (·.1.name),
      ∀ n ∈ (Collector.builtin ⟨none, ⟨0, 0, 0⟩⟩).map (·.1.name),
        ¬ (m ++ ".").toList <+: n.toList := by
    decide +kernel
  have hmem : ∀ s ∈ values (Collector.defaultRegistry usage).scrapers,
      s.name ∈ (Collector.builtin ⟨none, ⟨0, 0, 0⟩⟩).map (·.1.name) := fun s hs => by
    obtain ⟨p, hp, rfl⟩ := List.mem_map.1 hs
    exact hnames ▸ hreach.wellFormed.allowed p hp
  refine (flag_names_nodup_iff hreach).2 fun x hx y hy => ?_
  exact not_clash_of_names (hapart _ (hmem x hx) _ (hmem y hy))

end Registry
end MysqlMetrics
