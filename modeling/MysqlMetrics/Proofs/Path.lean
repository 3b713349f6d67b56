import MysqlMetrics.Proofs.Connection.Place
import MysqlMetrics.Proofs.Text
/-!
# Paths below the home directory

A path that is joined to a directory goes on from it: first its components are walked, then those of
the path. That holds of relative paths, while an absolute one stands for itself, so a path `~/rest`
leads below the home directory exactly if `rest` is relative (`liesUnder_join_iff`), and with one
slash too many the option file is looked for from the root (`Startup.optionFile_underHome`).
-/
namespace MysqlMetrics

namespace Path

open Files

/-- A path goes on from a directory: it is walked from where the directory is, by its components and
then by those of the rest. -/
structure LiesUnder (base rest path : String) : Prop where
  isAbsolute_eq : isAbsolute path = isAbsolute base
  components_eq : components path = components base ++ components rest

variable {base rest path home : String} {env : Environment}

theorem components_slash (a b : String) :
    components (a ++ "/" ++ b) = components a ++ components b := by
  unfold components
  rw [show "/" = String.singleton '/' from rfl, Text.split_append, List.filter_append]

theorem components_empty : components "" = [] := rfl

theorem exists_of_endsWith (h : base.endsWith "/" = true) : ∃ a, base = a ++ "/" := by
  rw [String.endsWith_eq_endsWith_toSlice, String.Slice.endsWith_string_iff,
    String.copy_toSlice] at h
  obtain ⟨cs, hcs⟩ := h
  exact ⟨.ofList cs, String.toList_inj.1 (by simp [← hcs])⟩

/-- A slash at the end says nothing. -/
theorem components_append_slash (a : String) : components (a ++ "/") = components a := by
  have h := components_slash a ""
  rwa [components_empty, List.append_nil, String.append_empty] at h

theorem isAbsolute_append (hne : base ≠ "") (t : String) :
    isAbsolute (base ++ t) = isAbsolute base := by
  have hiff : ∀ s : String, isAbsolute s = true ↔ ∃ cs, s.toList = '/' :: cs :=
    fun _ => Text.startsWith_singleton rfl
  rw [Bool.eq_iff_iff, hiff, hiff, String.toList_append]
  cases hb : base.toList with
  | nil => exact absurd (String.toList_eq_nil_iff.1 hb) hne
  | cons c cs => simp

/-- An absolute path does not depend on where it is seen from. -/
theorem join_of_isAbsolute (h : isAbsolute rest = true) (base : String) : join base rest = rest :=
  if_pos h

/-- The directory may be empty, and it may or may not end in a slash. -/
theorem liesUnder_join (h : isAbsolute rest = false) (base : String) :
    LiesUnder base rest (join base rest) := by
  have hjoin : join base rest =
      if base.isEmpty || base.endsWith "/" then base ++ rest else base ++ "/" ++ rest :=
    if_neg (Bool.eq_false_iff.1 h)
  by_cases hempty : base = ""
  · subst hempty
    have hrest : join "" rest = rest := hjoin
    rw [hrest]
    exact ⟨h, rfl⟩
  · rw [hjoin]
    split
    · rename_i hcase
      have hslash : base.endsWith "/" = true := by simpa [hempty] using hcase
      refine ⟨isAbsolute_append hempty rest, ?_⟩
      obtain ⟨a, rfl⟩ := exists_of_endsWith hslash
      rw [components_slash, components_append_slash]
    · refine ⟨?_, components_slash base rest⟩
      rw [String.append_assoc, isAbsolute_append hempty]

theorem liesUnder_join_iff : LiesUnder base rest (join base rest) ↔
    isAbsolute rest = false ∨ isAbsolute base = true ∧ components base = [] := by
  cases habs : isAbsolute rest with
  | false => exact iff_of_true (liesUnder_join habs base) (.inl rfl)
  | true =>
    rw [join_of_isAbsolute habs]
    constructor
    · rintro ⟨hbase, hcomponents⟩
      exact .inr ⟨hbase ▸ habs, List.self_eq_append_left.1 hcomponents⟩
    · rintro (h | ⟨hbase, hcomponents⟩)
      · cases h
      · exact ⟨habs.trans hbase.symm, by rw [hcomponents, List.nil_append]⟩

/-! ## The home directory -/

theorem expandHome_tilde (h : env.get? "HOME" = some home) (rest : String) :
    expandHome env ("~/" ++ rest) = join home rest := by
  rw [expandHome, Text.after?_eq_some.2 rfl, h]

theorem expandHome_of_not_tilde (h : ∀ rest, path ≠ "~/" ++ rest) : expandHome env path = path := by
  have hnone : Text.after? "~/" path = none :=
    Option.eq_none_iff_forall_ne_some.2 fun rest hrest => h rest (Text.after?_eq_some.1 hrest)
  rw [expandHome, hnone]

theorem expandHome_of_no_home (h : env.get? "HOME" = none) (path : String) :
    expandHome env path = path := by
  rw [expandHome, h]
  cases Text.after? "~/" path <;> rfl

end Path

namespace Startup

/-- **Where the option file is looked for.** A path `~/rest` leads below the home directory exactly
if `rest` is relative, or if the home directory is the root anyway; else it is `rest` as it stands.
Any other path, and any path where no home directory is known, is used unchanged. The default
connection depends on the file at this path and on no other. -/
theorem optionFile_underHome (env : Environment) (path : String) :
    (∀ home rest, env.get? "HOME" = some home → path = "~/" ++ rest →
      (Path.LiesUnder home rest (Path.expandHome env path) ↔
        Files.isAbsolute rest = false ∨
          Files.isAbsolute home = true ∧ Files.components home = []) ∧
      (Files.isAbsolute rest = true → Path.expandHome env path = rest)) ∧
    ((env.get? "HOME" = none ∨ ∀ rest, path ≠ "~/" ++ rest) → Path.expandHome env path = path) ∧
    ∀ options files files', options.myCnf = path →
      files.regular? (Path.expandHome env path) = files'.regular? (Path.expandHome env path) →
        defaultConnection env files options none = defaultConnection env files' options none := by
  refine ⟨?_, ?_, ?_⟩
  · rintro home rest hhome rfl
    rw [Path.expandHome_tilde hhome]
    exact ⟨Path.liesUnder_join_iff, fun habs => Path.join_of_isAbsolute habs home⟩
  · rintro (hnone | htilde)
    · exact Path.expandHome_of_no_home hnone path
    · exact Path.expandHome_of_not_tilde htilde
  · rintro options files files' rfl hsame
    have hload : loadOptionFile files (Path.expandHome env options.myCnf) =
        loadOptionFile files' (Path.expandHome env options.myCnf) := by
      rw [loadOptionFile, loadOptionFile, hsame]
    rw [defaultConnection, defaultConnection, hload]

namespace Stray

def env : Environment := [("HOME", "/home/me")]

def options : Options := { myCnf := "~//etc/my.cnf" }

def strange : List String × FileEntry := (["etc", "my.cnf"], .file "[client]\nuser=stranger\n")

def mine : List String × FileEntry :=
  (["home", "me", "etc", "my.cnf"], .file "[client]\nuser=me\n")

end Stray

open Stray in
/-- With one slash too many, the credentials are those of a file outside the home directory,
whatever stands inside. -/
theorem optionFile_stray :
    env.get? "HOME" = some "/home/me" ∧ options.myCnf = "~/" ++ "/etc/my.cnf" ∧
    ¬ Path.LiesUnder "/home/me" "/etc/my.cnf" (Path.expandHome env options.myCnf) ∧
    Path.expandHome env options.myCnf = "/etc/my.cnf" ∧
    Path.expandHome env "/etc/my.cnf" = "/etc/my.cnf" ∧
    defaultConnection env { entries := [strange, mine] } options none =
      defaultConnection env { entries := [strange] } options none ∧
    defaultConnection env { entries := [strange] } options none =
      .ok (some { user := "stranger" }) := by
  have hhome : env.get? "HOME" = some "/home/me" := by decide
  have hpath : options.myCnf = "~/" ++ "/etc/my.cnf" := by decide
  have habs : Files.isAbsolute "/etc/my.cnf" = true := by decide +kernel
  obtain ⟨htilde, -, hfiles⟩ := optionFile_underHome env options.myCnf
  obtain ⟨-, hkept, -⟩ := optionFile_underHome env "/etc/my.cnf"
  obtain ⟨hiff, hrest⟩ := htilde _ _ hhome hpath
  have hstray := hrest habs
  refine ⟨hhome, hpath, ?_, hstray, ?_, ?_, ?_⟩
  · rw [hiff]
    decide +kernel
  · refine hkept (.inr fun rest heq => ?_)
    have hlist := congrArg String.toList heq
    simp at hlist
  · refine hfiles _ _ _ rfl ?_
    rw [hstray]
    decide +kernel
  · have hfile : Files.regular? { entries := [strange] } (Path.expandHome env options.myCnf) =
        some "[client]\nuser=stranger\n" := by
      rw [hstray]
      decide +kernel
    exact (defaultConnection_eq_some hfile).2 ⟨{ user := some "stranger" }, rfl, rfl, rfl⟩

end Startup

end MysqlMetrics
