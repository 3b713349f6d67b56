import Mathlib
import MysqlMetrics.Proofs.Decimal.Whole
import MysqlMetrics.Proofs.Lists
import MysqlMetrics.Proofs.Text
import MysqlMetrics.Server.Info
/-!
# Versions are read back from announcements

An announcement shows a version, and what follows does not go on with the number. Then the version
is read back (`Version.parse_toText`), also between blanks and behind the prefix of MariaDB
(`ServerInfo.parse_announcement`). There is one way to misunderstand: where MariaDB shows the
version 5.5.5 and goes on with a dash, this is the prefix itself (`ServerInfo.version_mistaken`).
-/
namespace MysqlMetrics

/-! ## Versions -/

namespace Version

variable {v : Version} {c : Char} {rest : List Char} {s : String}

/-- The components of a version are numbers of 64 bits. -/
structure InRange (v : Version) : Prop where
  major : v.major ≤ Decimal.maxU64
  minor : v.minor ≤ Decimal.maxU64
  patch : v.patch ≤ Decimal.maxU64

/-- A character of a version. -/
def isNumeral (c : Char) : Bool := c.isDigit || c == '.'

/-- What follows a version does not go on with it. -/
def EndsVersion (rest : List Char) : Prop := ∀ c ∈ rest.head?, isNumeral c = false

theorem isDigit_toDigits {n : Nat} : ∀ c ∈ Nat.toDigits 10 n, c.isDigit = true := fun _ hc =>
  Nat.isDigit_of_mem_toDigits (by decide) (by decide) hc

theorem toList_toText (v : Version) : v.toText.toList = Nat.toDigits 10 v.major ++
    '.' :: (Nat.toDigits 10 v.minor ++ '.' :: Nat.toDigits 10 v.patch) := by
  simp [toText, Nat.toList_repr]

theorem toText_ne_nil (v : Version) : v.toText.toList ≠ [] := by
  rw [toList_toText]
  simp

theorem isNumeral_of_mem_toText (hc : c ∈ v.toText.toList) : isNumeral c = true := by
  rw [toList_toText, List.mem_append, List.mem_cons, List.mem_append, List.mem_cons] at hc
  unfold isNumeral
  rcases hc with hc | rfl | hc | rfl | hc
  · simp [isDigit_toDigits c hc]
  · rfl
  · simp [isDigit_toDigits c hc]
  · rfl
  · simp [isDigit_toDigits c hc]

theorem toNat_of_isNumeral (hc : isNumeral c = true) : 46 ≤ c.toNat ∧ c.toNat ≤ 57 := by
  rcases Bool.or_eq_true _ _ ▸ hc with hc | hc
  · have hdigit : 48 ≤ c.toNat ∧ c.toNat ≤ 57 := Char.isDigit_iff_toNat.1 hc
    omega
  · rw [beq_iff_eq] at hc
    subst hc
    decide

theorem isBlank_of_isNumeral (hc : isNumeral c = true) : Text.isBlank c = false := by
  obtain ⟨hlow, hhigh⟩ := toNat_of_isNumeral hc
  exact Text.isBlank_ascii (by omega) (by omega)

theorem EndsVersion.dropBlankEnd (h : EndsVersion rest) : EndsVersion (Text.dropBlankEnd rest) := by
  obtain ⟨after, -, hrest⟩ := Text.exists_dropBlankEnd rest
  intro c hc
  refine h c ?_
  rw [hrest, List.head?_append, Option.mem_def.1 hc]
  rfl

/-- A number of 64 bits is read back as a component. -/
theorem component_toDigits {n : Nat} (h : n ≤ Decimal.maxU64) :
    component (Nat.toDigits 10 n) = n := by
  have hread : Decimal.readU64 n.repr = .ok n := Decimal.readNat_eq_ok.2 ⟨Decimal.writes_repr n, h⟩
  have htext : String.ofList (Nat.toDigits 10 n) = n.repr := by
    rw [← Nat.toList_repr, String.ofList_toList]
  rw [component, htext, hread]
  rfl

/-- The number at the start is the whole version. -/
theorem numeral_toText (h : EndsVersion rest) :
    numeral (v.toText.toList ++ rest) = v.toText.toList := by
  have hblank : ∀ c ∈ v.toText.toList, Text.isBlank c = false := fun c hc =>
    isBlank_of_isNumeral (isNumeral_of_mem_toText hc)
  have htrim : Text.trimList (v.toText.toList ++ rest) =
      v.toText.toList ++ Text.dropBlankEnd rest :=
    Text.trimList_core (toText_ne_nil v) (fun c hc => hblank c (List.mem_of_mem_head? hc))
      (fun c hc => hblank c (List.mem_of_mem_getLast? hc)) rest
  have hend : (Text.dropBlankEnd rest).takeWhile isNumeral = [] := by
    cases hrest : Text.dropBlankEnd rest with
    | nil => rfl
    | cons c cs =>
      have hc : isNumeral c = false := h.dropBlankEnd c (by rw [hrest]; rfl)
      simp [hc]
  have htake : numeral (v.toText.toList ++ rest) =
      (v.toText.toList ++ Text.dropBlankEnd rest).takeWhile isNumeral := by
    rw [numeral, htrim]
    rfl
  rw [htake, List.takeWhile_append_of_pos fun c hc => isNumeral_of_mem_toText hc, hend,
    List.append_nil]

/-- A version is read back, whatever follows that does not go on with it. -/
theorem parse_toText (hv : v.InRange) (h : EndsVersion s.toList) : parse (v.toText ++ s) = v := by
  have hplain : ∀ n, Text.splitList (· == '.') (Nat.toDigits 10 n) = [Nat.toDigits 10 n] := fun n =>
    Text.splitList_plain fun c hc => by
      rw [beq_eq_false_iff_ne]
      rintro rfl
      exact absurd (isDigit_toDigits '.' hc) (by decide)
  have hsplit : Text.splitList (· == '.') v.toText.toList =
      [Nat.toDigits 10 v.major, Nat.toDigits 10 v.minor, Nat.toDigits 10 v.patch] := by
    rw [toList_toText, Text.splitList_append (by simp), Text.splitList_append (by simp), hplain,
      hplain, hplain]
    rfl
  rw [parse, ofList, String.toList_append, numeral_toText h, hsplit]
  simp [component_toDigits hv.major, component_toDigits hv.minor, component_toDigits hv.patch]

end Version

/-! ## Announcements -/

namespace ServerInfo

variable {v : Version} {s : String} {c : Char} {cs before after : List Char}

/-- A text has the name of MariaDB in it, in letters of any case. -/
def Names (s : String) : Prop :=
  ∃ before name after : String, s = before ++ name ++ after ∧ Text.asciiLower name = "mariadb"

/-- The same of characters. -/
def NamedIn (cs : List Char) : Prop :=
  ∃ name, name <:+: cs ∧ name.map Char.toLower = "mariadb".toList

theorem names_iff : Names s ↔ NamedIn s.toList := by
  constructor
  · rintro ⟨before, name, after, rfl, hname⟩
    refine ⟨name.toList, ⟨before.toList, after.toList, by simp⟩, ?_⟩
    rw [← hname, Text.toList_asciiLower]
  · rintro ⟨name, ⟨before, after, hs⟩, hname⟩
    refine ⟨.ofList before, .ofList name, .ofList after, String.toList_inj.1 (by simp [← hs]), ?_⟩
    rw [Text.asciiLower, String.toList_ofList, hname, String.ofList_toList]

theorem flavorOf_eq_mariaDb : flavorOf s = .mariaDb ↔ NamedIn s.toList := by
  have hcontains : Text.contains (Text.asciiLower s) "mariadb" = true ↔ NamedIn s.toList := by
    rw [Text.contains, Text.occursIn_iff, Text.toList_asciiLower, List.infix_map_iff]
    simp only [NamedIn, eq_comm]
  rw [← hcontains, flavorOf]
  split <;> simp_all

/-- The name has letters only, and so it is found between other characters exactly if it was
there. -/
theorem namedIn_between (hb : ∀ c ∈ before, c.isAlpha = false) (ha : ∀ c ∈ after, c.isAlpha = false)
    (cs : List Char) : NamedIn (before ++ cs ++ after) ↔ NamedIn cs := by
  refine exists_congr fun name => and_congr_left fun hname => ?_
  have hne : name ≠ [] := by
    rintro rfl
    cases hname
  have hletters : ∀ c ∈ "mariadb".toList, c.isAlpha = true :=
    List.all_eq_true.1 (by decide)
  have hletter : ∀ c ∈ name, c.isAlpha = true := fun c hc => by
    rw [← Char.isAlpha_toLower_eq_isAlpha]
    exact hletters _ (hname ▸ List.mem_map_of_mem hc)
  have hapart : ∀ xs : List Char, (∀ c ∈ xs, c.isAlpha = false) → ∀ c ∈ name, c ∉ xs :=
    fun xs hxs c hc hmem => Bool.noConfusion ((hxs c hmem).symm.trans (hletter c hc))
  rw [infix_append_right hne (hapart after ha), infix_append_left hne (hapart before hb)]

/-! ## What is read of one -/

theorem flavor_parse (s : String) : (parse s).flavor = flavorOf (Text.trim s) := by
  unfold parse
  cases h : flavorOf (Text.trim s) <;> simp [h]

theorem version_of_mySql (h : flavorOf (Text.trim s) = .mySql) :
    (parse s).version = Version.parse (Text.trim s) := by
  simp [parse, h]

theorem version_of_mariaDb (h : flavorOf (Text.trim s) = .mariaDb) : (parse s).version =
    Version.parse ((Text.after? "5.5.5-" (Text.trim s)).getD (Text.trim s)) := by
  simp [parse, h]

/-- Where a version begins the announcement and no letter stands before it, the name is looked for
behind it, and the blanks around the whole are lost. -/
theorem trim_announcement {shown before s after : String}
    (hb : ∀ c ∈ before.toList, Text.isBlank c = true)
    (ha : ∀ c ∈ after.toList, Text.isBlank c = true) (hne : shown.toList ≠ [])
    (hshown : ∀ c ∈ shown.toList, Version.isNumeral c = true ∨ c = '-') :
    ∃ rest, Text.trim (before ++ (shown ++ s) ++ after) = shown ++ rest ∧
      rest.toList = Text.dropBlankEnd s.toList ∧
      (flavorOf (shown ++ rest) = .mariaDb ↔ Names s) := by
  have hsign : ∀ c ∈ shown.toList, 45 ≤ c.toNat ∧ c.toNat ≤ 57 := fun c hc => by
    rcases hshown c hc with hc | rfl
    · have := Version.toNat_of_isNumeral hc
      omega
    · decide
  have hblank : ∀ c ∈ shown.toList, Text.isBlank c = false := fun c hc =>
    Text.isBlank_ascii (by have := hsign c hc; omega) (by have := hsign c hc; omega)
  have hletter : ∀ c ∈ shown.toList, c.isAlpha = false := fun c hc => by
    rw [← Bool.not_eq_true]
    intro halpha
    have := hsign c hc
    have := Text.toNat_of_isAlpha halpha
    omega
  refine ⟨.ofList (Text.dropBlankEnd s.toList), ?_, String.toList_ofList, ?_⟩
  · refine String.toList_inj.1 ?_
    have hcore := Text.trimList_core hne (fun c hc => hblank c (List.mem_of_mem_head? hc))
      (fun c hc => hblank c (List.mem_of_mem_getLast? hc)) s.toList
    rw [Text.trim, String.toList_ofList, String.toList_append, String.toList_append,
      String.toList_append, Text.trimList_append hb ha, hcore, String.toList_append,
      String.toList_ofList]
  · obtain ⟨tail, htail, hs⟩ := Text.exists_dropBlankEnd s.toList
    have hnone : ∀ c ∈ ([] : List Char), c.isAlpha = false := by simp
    have hcut := namedIn_between hnone (fun c hc => Text.isAlpha_of_isBlank (htail c hc))
      (Text.dropBlankEnd s.toList)
    have hfront := namedIn_between hletter hnone (Text.dropBlankEnd s.toList)
    rw [List.append_nil] at hfront
    rw [List.nil_append, ← hs] at hcut
    rw [flavorOf_eq_mariaDb, names_iff, String.toList_append, String.toList_ofList, hfront, hcut]

/-- The version that MariaDB puts in front for old clients. -/
def oldest : Version := ⟨5, 5, 5⟩

theorem prefix_eq : "5.5.5-" = oldest.toText ++ "-" := by decide

/-- Only that version begins like the prefix, and the dash is then the start of what follows. -/
theorem eq_oldest_of_after {rest behind : String} (hv : v.InRange)
    (hends : Version.EndsVersion rest.toList)
    (h : Text.after? "5.5.5-" (v.toText ++ rest) = some behind) :
    v = oldest ∧ rest = "-" ++ behind := by
  have htext : v.toText ++ rest = oldest.toText ++ ("-" ++ behind) := by
    rw [Text.after?_eq_some.1 h, prefix_eq, String.append_assoc]
  have holdest : oldest.InRange := ⟨by decide, by decide, by decide⟩
  have hdash : Version.EndsVersion ("-" ++ behind).toList := by
    simp [Version.EndsVersion, Version.isNumeral]
  have hversion : v = oldest := by
    rw [← Version.parse_toText hv hends, htext, Version.parse_toText holdest hdash]
  subst hversion
  exact ⟨rfl, (String.append_right_inj _).1 htext⟩

/-- Where MariaDB shows that version itself and goes on with a dash, it looks like what is put in
front. -/
structure Mistakable (v : Version) (s : String) : Prop where
  named : Names s
  version : v = oldest
  dash : s.toList.head? = some '-'

/-- **Versions are read back from announcements.** A version of 64 bits that is shown at the start
is read back, if what follows does not go on with it. So it is of an announcement between blanks,
which is one of MariaDB exactly if the name stands in what follows, unless it could be mistaken for
the prefix. And so it is of every announcement of MariaDB with the prefix. -/
theorem parse_announcement (hv : v.InRange) (hs : Version.EndsVersion s.toList)
    {before after : String}
    (hb : ∀ c ∈ before.toList, Text.isBlank c = true)
    (ha : ∀ c ∈ after.toList, Text.isBlank c = true) :
    Version.parse (v.toText ++ s) = v ∧
    ((parse (before ++ (v.toText ++ s) ++ after)).flavor = .mariaDb ↔ Names s) ∧
    (¬ Mistakable v s → (parse (before ++ (v.toText ++ s) ++ after)).version = v) ∧
    (Names s →
      (parse (before ++ ("5.5.5-" ++ v.toText ++ s) ++ after)).flavor = .mariaDb ∧
      (parse (before ++ ("5.5.5-" ++ v.toText ++ s) ++ after)).version = v) := by
  have hnumeral : ∀ c ∈ v.toText.toList, Version.isNumeral c = true ∨ c = '-' := fun c hc =>
    .inl (Version.isNumeral_of_mem_toText hc)
  obtain ⟨rest, htrim, hrest, hflavor⟩ :=
    trim_announcement (s := s) hb ha (Version.toText_ne_nil v) hnumeral
  have hends : Version.EndsVersion rest.toList := hrest ▸ hs.dropBlankEnd
  refine ⟨Version.parse_toText hv hs, ?_, fun hclear => ?_, fun hnamed => ?_⟩
  · rw [flavor_parse, htrim, hflavor]
  · cases hf : flavorOf (v.toText ++ rest) with
    | mySql => rw [version_of_mySql (by rw [htrim, hf]), htrim, Version.parse_toText hv hends]
    | mariaDb =>
      rw [version_of_mariaDb (by rw [htrim, hf]), htrim]
      cases hafter : Text.after? "5.5.5-" (v.toText ++ rest) with
      | none => exact Version.parse_toText hv hends
      | some behind =>
        obtain ⟨hversion, hbehind⟩ := eq_oldest_of_after hv hends hafter
        obtain ⟨tail, -, hs⟩ := Text.exists_dropBlankEnd s.toList
        refine absurd ⟨hflavor.1 hf, hversion, ?_⟩ hclear
        rw [hs, ← hrest, hbehind]
        simp
  · have hprefixed : ∀ c ∈ ("5.5.5-" ++ v.toText).toList, Version.isNumeral c = true ∨ c = '-' := by
      intro c hc
      rw [String.toList_append, List.mem_append] at hc
      rcases hc with hc | hc
      · have hprefix : ∀ c ∈ "5.5.5-".toList, (Version.isNumeral c || c == '-') = true :=
          List.all_eq_true.1 (by decide)
        simpa using hprefix c hc
      · exact hnumeral c hc
    obtain ⟨rest, htrim, hrest, hflavor⟩ :=
      trim_announcement (s := s) hb ha (by simp) hprefixed
    have hends : Version.EndsVersion rest.toList := hrest ▸ hs.dropBlankEnd
    have hafter : Text.after? "5.5.5-" ("5.5.5-" ++ v.toText ++ rest) = some (v.toText ++ rest) :=
      Text.after?_eq_some.2 (String.append_assoc ..)
    have hf : flavorOf ("5.5.5-" ++ v.toText ++ rest) = .mariaDb := hflavor.2 hnamed
    refine ⟨by rw [flavor_parse, htrim, hf], ?_⟩
    rw [version_of_mariaDb (by rw [htrim, hf]), htrim, hafter]
    exact Version.parse_toText hv hends

/-- Between blanks, in capital letters, with the prefix and without it. -/
theorem announcement_capitals :
    (parse "\t5.5.5-10.4.7-MARIADB-log \n").flavor = .mariaDb ∧
      (parse "\t5.5.5-10.4.7-MARIADB-log \n").version = ⟨10, 4, 7⟩ ∧
      (parse "\t10.4.7-MARIADB-log \n").version = ⟨10, 4, 7⟩ := by
  have hv : Version.InRange ⟨10, 4, 7⟩ := ⟨by decide, by decide, by decide⟩
  have hs : Version.EndsVersion "-MARIADB-log".toList := by
    simp [Version.EndsVersion, Version.isNumeral]
  have hnamed : Names "-MARIADB-log" := ⟨"-", "MARIADB", "-log", by decide, by decide⟩
  have hclear : ¬ Mistakable ⟨10, 4, 7⟩ "-MARIADB-log" := fun h => absurd h.version (by decide)
  have hb : ∀ c ∈ "\t".toList, Text.isBlank c = true := List.all_eq_true.1 (by decide)
  have ha : ∀ c ∈ " \n".toList, Text.isBlank c = true := List.all_eq_true.1 (by decide)
  obtain ⟨-, -, hplain, hprefixed⟩ := parse_announcement hv hs hb ha
  obtain ⟨hflavor, hversion⟩ := hprefixed hnamed
  exact ⟨hflavor, hversion, hplain hclear⟩

/-- What MariaDB would announce as version 5.5.5 is taken for the prefix, and the number behind the
dash for the version. -/
theorem version_mistaken :
    Version.InRange ⟨5, 5, 5⟩ ∧ Version.EndsVersion "-10.4.7-MariaDB".toList ∧
      Names "-10.4.7-MariaDB" ∧
      (parse (Version.toText ⟨5, 5, 5⟩ ++ "-10.4.7-MariaDB")).version = ⟨10, 4, 7⟩ ∧
      (parse (Version.toText ⟨5, 5, 5⟩ ++ "-10.4.7-MariaDB")).version ≠ ⟨5, 5, 5⟩ := by
  have hversion : (parse (Version.toText ⟨5, 5, 5⟩ ++ "-10.4.7-MariaDB")).version = ⟨10, 4, 7⟩ := by
    decide +kernel
  refine ⟨⟨by decide, by decide, by decide⟩, by simp [Version.EndsVersion, Version.isNumeral],
    ⟨"-10.4.7-", "MariaDB", "", by decide, by decide⟩, hversion, ?_⟩
  rw [hversion]
  decide

end ServerInfo
end MysqlMetrics
