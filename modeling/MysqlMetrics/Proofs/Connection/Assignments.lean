import MysqlMetrics.Proofs.Connection.ClientLines
import MysqlMetrics.Proofs.Connection.OptionFile
import MysqlMetrics.Proofs.Decimal.Whole
/-!
# What the lines of an option file set

A line gives a key a value, which may stand between quotes (`Assigns`). Files with the same lines
that count are read the same, also if a key is spelled with other dashes. What is read fails exactly
if such a line gives the port something else than a port, and otherwise each setting is what the
last line for its key says: between quotes, any text (`parse_lawful`).
-/
namespace MysqlMetrics.ClientConfig

variable {lines pre post : List (List Char)} {raw line cs body : List Char} {mark : Char} {i : Nat}
  {key value content : String} {c : ClientConfig}

/-! ## Lines -/

/-- A key with a dash in place of each underscore. -/
def dashed (cs : List Char) : String := .ofList (cs.map fun c => if c = '_' then '-' else c)

/-- A text between two equal quotes. -/
def Quotes (cs body : List Char) : Prop := ∃ mark ∈ ['"', '\''], cs = mark :: body ++ [mark]

/-- What a line gives to which key. Blanks around either do not matter, nor do quotes around the
value. A line without an equals sign gives nothing to its key. -/
inductive Assigns : List Char → String → String → Prop
  | bare {line : List Char} (h : '=' ∉ line) : Assigns line (dashed line) ""
  | quoted {key value body : List Char} (h : '=' ∉ key) (hq : Quotes (Text.trimList value) body) :
    Assigns (key ++ '=' :: value) (dashed (Text.trimList key)) (.ofList body)
  | plain {key value : List Char} (h : '=' ∉ key)
      (hq : ∀ body, ¬ Quotes (Text.trimList value) body) :
    Assigns (key ++ '=' :: value) (dashed (Text.trimList key)) (.ofList (Text.trimList value))

theorem betweenQuotes_eq_some :
    betweenQuotes mark cs = some body ↔ cs = mark :: body ++ [mark] := by
  cases cs with
  | nil => simp [betweenQuotes]
  | cons d rest =>
    have hrest : ∀ {back : List Char}, rest.reverse = back ↔ rest = back.reverse := by
      intro back
      rw [← List.reverse_inj, List.reverse_reverse]
    unfold betweenQuotes
    by_cases hd : d = mark
    · subst hd
      cases hr : rest.reverse with
      | nil =>
        rw [hrest] at hr
        simp [hr]
      | cons e back =>
        rw [hrest] at hr
        by_cases he : e = d
        · simp [hr, he, List.reverse_eq_iff]
        · simp [hr, he]
    · simp [hd]

theorem unquote_quotes (h : Quotes cs body) : unquote cs = body := by
  obtain ⟨mark, hmark, hcs⟩ := h
  have hsome : betweenQuotes mark cs = some body := betweenQuotes_eq_some.2 hcs
  rcases List.mem_pair.1 hmark with rfl | rfl
  · rw [unquote, hsome]
    rfl
  · have hother : betweenQuotes '"' cs = none := by
      rw [hcs]
      simp [betweenQuotes]
    rw [unquote, hother, hsome]
    rfl

theorem unquote_plain (h : ∀ body, ¬ Quotes cs body) : unquote cs = cs := by
  have hnone : ∀ mark ∈ ['"', '\''], betweenQuotes mark cs = none := fun mark hmark =>
    Option.eq_none_iff_forall_ne_some.2 fun body hbody =>
      h body ⟨mark, hmark, betweenQuotes_eq_some.1 hbody⟩
  rw [unquote, hnone _ (by simp), hnone _ (by simp)]
  rfl

theorem assignment_bare (h : '=' ∉ line) : assignment line = (dashed line, "") := by
  have hcut : Text.cutList '=' line = none :=
    Option.eq_none_iff_forall_ne_some.2 fun ⟨before, after⟩ hcut => by
      obtain ⟨rfl, -⟩ := Text.cutList_eq_some.1 hcut
      simp at h
  rw [assignment, hcut]
  rfl

theorem assignment_equals {before after : List Char} (h : '=' ∉ before) :
    assignment (before ++ '=' :: after) =
      (dashed (Text.trimList before), .ofList (unquote (Text.trimList after))) := by
  have hcut : Text.cutList '=' (before ++ '=' :: after) = some (before, after) :=
    Text.cutList_eq_some.2 ⟨rfl, h⟩
  rw [assignment, hcut]
  rfl

/-- What is taken from a line is what the line says. -/
theorem assigns_iff : Assigns line key value ↔ assignment line = (key, value) := by
  constructor
  · intro h
    cases h with
    | bare h => exact assignment_bare h
    | quoted h hq => rw [assignment_equals h, unquote_quotes hq]
    | plain h hq => rw [assignment_equals h, unquote_plain hq]
  · intro h
    by_cases hmem : '=' ∈ line
    · obtain ⟨before, after, rfl, hbefore⟩ := List.eq_append_cons_of_mem hmem
      by_cases hq : ∃ body, Quotes (Text.trimList after) body
      · obtain ⟨body, hq⟩ := hq
        rw [assignment_equals hbefore, unquote_quotes hq] at h
        cases h
        exact .quoted hbefore hq
      · rw [not_exists] at hq
        rw [assignment_equals hbefore, unquote_plain hq] at h
        cases h
        exact .plain hbefore hq
    · rw [assignment_bare hmem] at h
      cases h
      exact .bare hmem

/-! ## Dashes -/

/-- Two lines that differ at most in the dashes of the key. -/
def Alike (a b : List Char) : Prop :=
  ∃ key key' rest, '=' ∉ key ∧ '=' ∉ key' ∧ dashed key = dashed key' ∧
    (rest = [] ∨ ∃ after, rest = '=' :: after) ∧ a = key ++ rest ∧ b = key' ++ rest

theorem dashed_trimList (cs : List Char) : dashed (Text.trimList cs) =
    .ofList (Text.trimList (cs.map fun c => if c = '_' then '-' else c)) := by
  have hblank : (Text.isBlank ∘ fun c => if c = '_' then '-' else c) = Text.isBlank := by
    funext c
    by_cases hc : c = '_'
    · subst hc
      rfl
    · simp [hc]
  have hdrop : ∀ cs : List Char,
      (cs.map fun c => if c = '_' then '-' else c).dropWhile Text.isBlank =
      (cs.dropWhile Text.isBlank).map fun c => if c = '_' then '-' else c := fun cs => by
    rw [List.dropWhile_map, hblank]
  rw [dashed, Text.trimList, Text.trimList, Text.dropBlankStart, Text.dropBlankStart,
    Text.dropBlankEnd, Text.dropBlankEnd, hdrop, ← List.map_reverse, hdrop, List.map_reverse]

theorem Alike.refl (line : List Char) : Alike line line := by
  by_cases h : '=' ∈ line
  · obtain ⟨before, after, rfl, hbefore⟩ := List.eq_append_cons_of_mem h
    exact ⟨before, before, _, hbefore, hbefore, rfl, .inr ⟨after, rfl⟩, rfl, rfl⟩
  · exact ⟨line, line, [], h, h, rfl, .inl rfl, by simp, by simp⟩

theorem Alike.assignment_eq {a b : List Char} (h : Alike a b) : assignment a = assignment b := by
  obtain ⟨key, key', rest, hkey, hkey', hdashed, hrest, rfl, rfl⟩ := h
  rcases hrest with rfl | ⟨after, rfl⟩
  · rw [List.append_nil, List.append_nil, assignment_bare hkey, assignment_bare hkey', hdashed]
  · have htrim : dashed (Text.trimList key) = dashed (Text.trimList key') := by
      rw [dashed_trimList, dashed_trimList]
      exact congrArg (fun cs => String.ofList (Text.trimList cs)) (String.ofList_inj.1 hdashed)
    rw [assignment_equals hkey, assignment_equals hkey', htrim]

/-! ## The last line for a key -/

/-- The last line that counts and has the key gives it the value. -/
def LastAssigns (lines : List (List Char)) (key value : String) : Prop :=
  ∃ i line, CountsAt lines i line ∧ Assigns line key value ∧
    ∀ j later, i < j → CountsAt lines j later → ∀ other, ¬ Assigns later key other

theorem lastAssigns_append_own (hplain : IsPlain (Text.trimList raw)) (hin : EndsInClient lines)
    (h : Assigns (Text.trimList raw) key value) {other : String} :
    LastAssigns (lines ++ [raw]) key other ↔ value = other := by
  have hhere : CountsAt (lines ++ [raw]) lines.length (Text.trimList raw) :=
    countsAt_append_one.2 (.inr ⟨rfl, rfl, hplain, hin⟩)
  constructor
  · rintro ⟨i, line, hcounts, hassigns, hlast⟩
    have hi : i = lines.length := by
      rcases Nat.lt_or_ge i lines.length with hi | hi
      · exact absurd h (hlast _ _ hi hhere _)
      · have := hcounts.lt
        simp at this
        omega
    subst hi
    rw [hcounts.line_eq hhere, assigns_iff, assigns_iff.1 h] at hassigns
    exact (Prod.mk.inj hassigns).2
  · rintro rfl
    refine ⟨_, _, hhere, h, fun j later hj hlater => ?_⟩
    have := hlater.lt
    simp at this
    omega

theorem lastAssigns_append_other
    (h : IsPlain (Text.trimList raw) → EndsInClient lines → ∀ other,
      ¬ Assigns (Text.trimList raw) key other) :
    LastAssigns (lines ++ [raw]) key value ↔ LastAssigns lines key value := by
  constructor
  · rintro ⟨i, line, hcounts, hassigns, hlast⟩
    rcases countsAt_append_one.1 hcounts with hcounts | ⟨-, rfl, hplain, hin⟩
    · exact ⟨i, line, hcounts, hassigns, fun j later hj hlater =>
        hlast j later hj (countsAt_append_one.2 (.inl hlater))⟩
    · exact absurd hassigns (h hplain hin _)
  · rintro ⟨i, line, hcounts, hassigns, hlast⟩
    refine ⟨i, line, countsAt_append_one.2 (.inl hcounts), hassigns, fun j later hj hlater => ?_⟩
    rcases countsAt_append_one.1 hlater with hlater | ⟨-, rfl, hplain, hin⟩
    · exact hlast j later hj hlater
    · exact h hplain hin

theorem lookup_eq_some :
    ((clientLines false lines).map assignment).reverse.lookup key = some value ↔
    LastAssigns lines key value := by
  induction lines using List.reverseRecOn with
  | nil =>
    refine ⟨fun h => by simp [clientLines] at h, fun ⟨i, line, h, _⟩ => absurd h.lt (by simp)⟩
  | append_singleton lines raw ih =>
    by_cases h : IsPlain (Text.trimList raw) ∧ EndsInClient lines
    · have hassigns : Assigns (Text.trimList raw) (assignment (Text.trimList raw)).1
          (assignment (Text.trimList raw)).2 := assigns_iff.2 rfl
      rw [clientLines_append_counted h.1 h.2, List.map_append, List.reverse_append,
        List.map_singleton, List.reverse_singleton, List.lookup_append, lookup_one]
      by_cases hkey : (assignment (Text.trimList raw)).1 = key
      · subst hkey
        rw [lastAssigns_append_own h.1 h.2 hassigns]
        simp
      · rw [if_neg hkey, Option.none_or, ih, lastAssigns_append_other]
        intro _ _ other hother
        exact hkey (congrArg Prod.fst (assigns_iff.1 hother))
    · rw [clientLines_append_other h, ih, lastAssigns_append_other]
      exact fun hplain hin => absurd ⟨hplain, hin⟩ h

theorem assigned_eq_some :
    assigned content key = some value ↔ LastAssigns (linesOf content) key value := lookup_eq_some

/-! ## Settings -/

/-- A number that a port can have. -/
def IsPort (s : String) (n : Nat) : Prop := Decimal.Writes s n ∧ n ≤ 65535

theorem readU16_eq_ok {n : Nat} : Decimal.readU16 value = .ok n ↔ IsPort value n :=
  Decimal.readNat_eq_ok

/-- The settings that are texts, by their keys. -/
def textFields : List (String × (ClientConfig → Option String)) :=
  [("user", user), ("password", password), ("host", host), ("socket", socket), ("ssl-ca", sslCa),
   ("ssl-cert", sslCert), ("ssl-key", sslKey)]

theorem follows_of_mem {field : String × (ClientConfig → Option String)} (h : field ∈ textFields) :
    Follows field.2 field.1 some := by
  simp only [textFields, List.mem_cons, List.not_mem_nil, or_false] at h
  rcases h with rfl | rfl | rfl | rfl | rfl | rfl | rfl <;>
    exact follows_text rfl fun h => by rw [(assign_eq_ok h).1]

theorem field_eq_some {field : String × (ClientConfig → Option String)} (h : field ∈ textFields)
    (hok : parse content = .ok c) :
    field.2 c = some value ↔ LastAssigns (linesOf content) field.1 value := by
  rw [(follows_of_mem h).eq_assigned hok, assigned_eq_some]

theorem port_eq_some (hok : parse content = .ok c) {n : Nat} : c.port = some n ↔
    ∃ value, LastAssigns (linesOf content) "port" value ∧ IsPort value n := by
  simp only [← assigned_eq_some]
  constructor
  · intro hn
    cases hassigned : assigned content "port" with
    | none =>
      have hnone := follows_port.parse hok
      rw [hassigned, hn] at hnone
      cases hnone
    | some value =>
      obtain ⟨m, hm, hread⟩ := port_eq_of_assigned hok hassigned
      rw [hn] at hm
      cases hm
      exact ⟨value, rfl, readU16_eq_ok.1 hread⟩
  · rintro ⟨value, hassigned, hport⟩
    obtain ⟨m, hm, hread⟩ := port_eq_of_assigned hok hassigned
    rw [readU16_eq_ok.2 hport] at hread
    cases hread
    exact hm

theorem assign_eq_error {name : String} : (∃ err, c.assign name value = .error err) ↔
    name = "port" ∧ ∀ n, ¬ IsPort value n := by
  simp only [← readU16_eq_ok]
  unfold assign
  split
  case h_4 =>
    cases hread : Decimal.readU16 value <;> simp
  case h_9 _ _ _ hport _ _ _ _ => simp [show ¬ name = "port" from hport]
  all_goals simp

theorem parse_eq_error : (∃ err, parse content = .error err) ↔
    ∃ i line value, CountsAt (linesOf content) i line ∧ Assigns line "port" value ∧
      ∀ n, ¬ IsPort value n := by
  have hfails : (∃ err, parse content = .error err) ↔ ∃ line ∈ clientLines false (linesOf content),
      (assignment line).1 = "port" ∧ ∀ n, ¬ IsPort (assignment line).2 n := by
    rw [parse, ofClientLines]
    refine exists_foldlM_eq_error fun c line => ?_
    exact assign_eq_error
  refine hfails.trans ?_
  constructor
  · rintro ⟨line, hmem, hkey, hport⟩
    obtain ⟨i, hcounts⟩ := mem_clientLines.1 hmem
    exact ⟨i, line, _, hcounts, assigns_iff.2 (Prod.ext hkey rfl), hport⟩
  · rintro ⟨i, line, value, hcounts, hassigns, hport⟩
    have hassignment := assigns_iff.1 hassigns
    refine ⟨line, mem_clientLines.2 ⟨i, hcounts⟩, ?_⟩
    rw [hassignment]
    exact ⟨rfl, hport⟩

/-- Only the lines that count are read, and only what they assign. -/
theorem parse_eq_of_alike {found found' : List (List Char)} {other : String}
    (h : AreClientLines (linesOf content) found) (h' : AreClientLines (linesOf other) found')
    (halike : List.Forall₂ Alike found found') : parse content = parse other := by
  have hfound : clientLines false (linesOf content) = found := (areClientLines _).unique h
  have hfound' : clientLines false (linesOf other) = found' := (areClientLines _).unique h'
  have hstep : ∀ (c : ClientConfig) {found found' : List (List Char)},
      List.Forall₂ Alike found found' →
        found.foldlM (fun c line => assign c (assignment line).1 (assignment line).2) c =
        found'.foldlM (fun c line => assign c (assignment line).1 (assignment line).2) c := by
    intro c found found' h
    induction h generalizing c with
    | nil => rfl
    | cons hline _ ih =>
      rw [List.foldlM_cons, List.foldlM_cons, hline.assignment_eq]
      exact congrArg _ (funext fun c => ih c)
  have hread := hstep {} halike
  rw [← hfound, ← hfound'] at hread
  exact hread

/-! ## Values between quotes -/

/-- A line that gives a key a value between quotes, with blanks wherever they do not matter. -/
def WritesQuoted (raw key body : List Char) : Prop :=
  ∃ indent front back tail mark,
    (∀ c ∈ indent ++ front ++ back ++ tail, Text.isBlank c = true ∧ c ≠ '\n') ∧
    mark ∈ ['"', '\''] ∧
    raw = indent ++ (key ++ front ++ '=' :: (back ++ mark :: body) ++ [mark]) ++ tail

/-- A character of a key. -/
def isKeyChar (c : Char) : Bool := c.isAlpha || c == '-' || c == '_'

theorem isKeyChar_of_dashed {field : String × (ClientConfig → Option String)} {key : List Char}
    (h : field ∈ textFields) (hkey : dashed key = field.1) :
    key ≠ [] ∧ ∀ c ∈ key, isKeyChar c = true := by
  have hfields : ∀ f ∈ textFields, f.1.toList ≠ [] ∧ f.1.toList.all isKeyChar = true := by
    simp only [textFields, List.forall_mem_cons, List.not_mem_nil, false_implies, implies_true,
      and_true]
    decide
  obtain ⟨hne, hall⟩ := hfields field h
  rw [← hkey, dashed, String.toList_ofList] at hne hall
  refine ⟨fun hnil => hne (by rw [hnil]; rfl), fun c hc => ?_⟩
  have hdash := List.all_eq_true.1 hall _ (List.mem_map_of_mem hc)
  by_cases hunderscore : c = '_'
  · subst hunderscore
    rfl
  · rwa [if_neg hunderscore] at hdash

theorem isKeyChar_ne {d : Char} (hd : isKeyChar d = false) {key : List Char}
    (hkey : ∀ c ∈ key, isKeyChar c = true) : d ∉ key := fun hmem => by
  rw [hkey d hmem] at hd
  cases hd

theorem isBlank_of_isKeyChar {c : Char} (h : isKeyChar c = true) : Text.isBlank c = false := by
  simp only [isKeyChar, Bool.or_eq_true, beq_iff_eq] at h
  rcases h with (h | rfl) | rfl
  · obtain ⟨hlow, hhigh⟩ := Text.toNat_of_isAlpha h
    exact Text.isBlank_ascii (by omega) (by omega)
  · rfl
  · rfl

theorem isBlank_of_mark (h : mark ∈ ['"', '\'']) : Text.isBlank mark = false := by
  rcases List.mem_pair.1 h with rfl | rfl <;> decide

theorem isBlank_of_getLast? (h : mark ∈ ['"', '\'']) (cs : List Char) :
    ∀ c ∈ (cs ++ [mark]).getLast?, Text.isBlank c = false := fun c hc => by
  rw [List.getLast?_concat] at hc
  cases hc
  exact isBlank_of_mark h

/-- A line that begins with a key is no blank one, no comment and no header. -/
theorem isPlain_of_key {key : List Char} (hne : key ≠ []) (hkey : ∀ c ∈ key, isKeyChar c = true)
    (rest : List Char) : IsPlain (key ++ rest) := by
  cases key with
  | nil => exact absurd rfl hne
  | cons d key =>
    have hd : ∀ e : Char, isKeyChar e = false → d ≠ e := by
      rintro e he rfl
      exact isKeyChar_ne he hkey List.mem_cons_self
    refine ⟨by simp, ?_, ?_⟩
    · simp [isComment, hd '#' rfl, hd ';' rfl]
    · rintro ⟨name, hname⟩
      exact hd '[' rfl (List.cons.inj hname).1

theorem assigns_quoted {key front back : List Char} (hkey : ∀ c ∈ key, isKeyChar c = true)
    (hfront : ∀ c ∈ front, Text.isBlank c = true) (hback : ∀ c ∈ back, Text.isBlank c = true)
    (hmark : mark ∈ ['"', '\'']) :
    Assigns (key ++ front ++ '=' :: (back ++ mark :: body) ++ [mark]) (dashed key)
      (.ofList body) := by
  have hnone : ∀ c ∈ ([] : List Char), Text.isBlank c = true := by simp
  have hnoEquals : '=' ∉ key ++ front := by
    rw [List.mem_append]
    rintro (hmem | hmem)
    · exact isKeyChar_ne rfl hkey hmem
    · exact absurd (hfront _ hmem) (by decide)
  have hquotes : Quotes (Text.trimList (back ++ (mark :: body ++ [mark]) ++ [])) body := by
    refine ⟨mark, hmark, Text.trimList_ends hback hnone ?_ (isBlank_of_getLast? hmark _)⟩
    intro c hc
    obtain rfl : mark = c := by simpa using hc
    exact isBlank_of_mark hmark
  have hkeyTrim : Text.trimList (key ++ front) = key :=
    Text.trimList_between hnone hfront fun c hc => isBlank_of_isKeyChar (hkey c hc)
  have hassigns := Assigns.quoted hnoEquals hquotes
  rw [hkeyTrim] at hassigns
  simpa using hassigns

/-- Such a line counts wherever it stands in the client section, and gives the key the value. -/
theorem WritesQuoted.spec {key : List Char} (h : WritesQuoted raw key body) (hne : key ≠ [])
    (hkey : ∀ c ∈ key, isKeyChar c = true) : IsPlain (Text.trimList raw) ∧
      Assigns (Text.trimList raw) (dashed key) (.ofList body) ∧
        ('\n' ∉ body → '\n' ∉ raw) := by
  obtain ⟨indent, front, back, tail, mark, hblank, hmark, rfl⟩ := h
  simp only [List.forall_mem_append] at hblank
  obtain ⟨⟨⟨hindent, hfront⟩, hback⟩, htail⟩ := hblank
  have htrim : Text.trimList
      (indent ++ (key ++ front ++ '=' :: (back ++ mark :: body) ++ [mark]) ++ tail) =
        key ++ front ++ '=' :: (back ++ mark :: body) ++ [mark] := by
    refine Text.trimList_ends (fun c hc => (hindent c hc).1) (fun c hc => (htail c hc).1) ?_
      (isBlank_of_getLast? hmark _)
    intro c hc
    refine isBlank_of_isKeyChar (hkey c (List.mem_of_mem_head? ?_))
    cases key with
    | nil => exact absurd rfl hne
    | cons d key => simpa using hc
  rw [htrim]
  refine ⟨?_, assigns_quoted hkey (fun c hc => (hfront c hc).1) (fun c hc => (hback c hc).1) hmark,
    fun hbody => ?_⟩
  · rw [List.append_assoc, List.append_assoc]
    exact isPlain_of_key hne hkey _
  · have hequals : '\n' ≠ '=' := by decide
    have hmarkEnd : '\n' ≠ mark := by
      rintro rfl
      simp at hmark
    simp only [List.mem_append, List.mem_cons, List.not_mem_nil, or_false, not_or]
    exact ⟨⟨fun h => (hindent _ h).2 rfl, ⟨⟨isKeyChar_ne rfl hkey, fun h => (hfront _ h).2 rfl⟩,
      hequals, fun h => (hback _ h).2 rfl, hmarkEnd, hbody⟩, hmarkEnd⟩, fun h => (htail _ h).2 rfl⟩

/-! ## Option files -/

/-- **What is read of an option file.** It has lines that count, in an order, and two files with the
same such lines are read the same; so are two files whose lines differ in the dashes of their keys.
Reading fails exactly if such a line gives the port something that is no port. Otherwise each
setting is what the last line for its key says, if there is one. And a value between quotes, with
any characters but the end of a line, is the setting, if a line in the client section gives it to a
key in any spelling and no later line that counts has the key. -/
theorem parse_lawful :
    (∀ content, ∃ found, AreClientLines (linesOf content) found) ∧
    (∀ content other found, AreClientLines (linesOf content) found →
      AreClientLines (linesOf other) found → parse content = parse other) ∧
    (∀ content other found found', AreClientLines (linesOf content) found →
      AreClientLines (linesOf other) found' → List.Forall₂ Alike found found' →
        parse content = parse other) ∧
    (∀ content, (∃ err, parse content = .error err) ↔ ∃ i line value,
      CountsAt (linesOf content) i line ∧ Assigns line "port" value ∧ ∀ n, ¬ IsPort value n) ∧
    (∀ content c, parse content = .ok c →
      (∀ field ∈ textFields, ∀ value,
        field.2 c = some value ↔ LastAssigns (linesOf content) field.1 value) ∧
      ∀ n, c.port = some n ↔
        ∃ value, LastAssigns (linesOf content) "port" value ∧ IsPort value n) ∧
    (∀ pre post raw key body, (∀ line ∈ pre ++ post, '\n' ∉ line) → EndsInClient pre →
      '\n' ∉ body → WritesQuoted raw key body → ∀ field ∈ textFields, dashed key = field.1 →
      (∀ i line, pre.length < i → CountsAt (pre ++ raw :: post) i line →
        ∀ value, ¬ Assigns line field.1 value) →
      ∀ c, parse (fileOf (pre ++ raw :: post)) = .ok c → field.2 c = some (.ofList body)) := by
  refine ⟨fun content => ⟨_, areClientLines _⟩, fun content other found h h' => ?_,
    fun content other found found' => parse_eq_of_alike, fun content => parse_eq_error,
    fun content c hok => ⟨fun field hfield value => field_eq_some hfield hok, fun n =>
      port_eq_some hok⟩, ?_⟩
  · exact parse_eq_of_alike h h' (List.forall₂_same.2 fun line _ => Alike.refl line)
  · intro pre post raw key body hlines hin hbody hwrites field hfield hkey hlast c hok
    obtain ⟨hne, hchars⟩ := isKeyChar_of_dashed hfield hkey
    obtain ⟨hplain, hassigns, hraw⟩ := hwrites.spec hne hchars
    have hfile : linesOf (fileOf (pre ++ raw :: post)) = pre ++ raw :: post := by
      refine linesOf_fileOf (by simp) fun line hline => ?_
      rcases List.mem_append.1 hline with hmem | hmem
      · exact hlines line (List.mem_append_left _ hmem)
      · rcases List.mem_cons.1 hmem with rfl | hmem
        · exact hraw hbody
        · exact hlines line (List.mem_append_right _ hmem)
    have hcounts : CountsAt (pre ++ raw :: post) pre.length (Text.trimList raw) :=
      ⟨by simp, hplain, by simpa using hin⟩
    rw [field_eq_some hfield hok, hfile]
    exact ⟨_, _, hcounts, hkey ▸ hassigns, fun i line hi => hlast i line hi⟩

/-- A file that opens the client section between two others, up to a line in it. -/
def mixedAbove : List (List Char) :=
  ["[mysqld]", "ssl-ca = /first", " [ CLIENT ] ", "; a comment"].map String.toList

/-- What stands in the file behind this line: a port, and another section. -/
def mixedBelow : List (List Char) :=
  ["port = +3306", "[mysqldump]", "ssl-ca = /last"].map String.toList

/-- The line between them, with quotes, an equals sign, a number sign and blanks in the value. -/
def mixedLine : List Char := "ssl_ca\t= ' \"a=b\" # ' ".toList

/-- The value is read back, and neither the same key in other sections nor what follows matters. -/
theorem parse_lawful_mixed :
    (∃ c, parse (fileOf (mixedAbove ++ mixedLine :: mixedBelow)) = .ok c) ∧
      ∀ c, parse (fileOf (mixedAbove ++ mixedLine :: mixedBelow)) = .ok c →
        c.sslCa = some " \"a=b\" # " := by
  obtain ⟨-, -, -, -, -, hquoted⟩ := parse_lawful
  have hok : parse (fileOf (mixedAbove ++ mixedLine :: mixedBelow)) =
      .ok { sslCa := some " \"a=b\" # ", port := some 3306 } := by decide +kernel
  have hwrites : WritesQuoted mixedLine "ssl_ca".toList " \"a=b\" # ".toList := by
    refine ⟨[], ['\t'], [' '], [' '], '\'', ?_, by simp, by decide⟩
    simp [Text.isBlank]
  have hlater : ∀ i line, mixedAbove.length < i →
      CountsAt (mixedAbove ++ mixedLine :: mixedBelow) i line →
        ∀ value, ¬ Assigns line "ssl-ca" value := by
    intro i line hi hcounts value hassigns
    have hlow : 4 < i := hi
    have hhigh : i < 8 := hcounts.lt
    obtain rfl | rfl | rfl : i = 5 ∨ i = 6 ∨ i = 7 := by omega
    · obtain rfl : "port = +3306".toList = line := Option.some.inj hcounts.here
      have hkey : (assignment "port = +3306".toList).1 = "ssl-ca" :=
        congrArg Prod.fst (assigns_iff.1 hassigns)
      exact absurd hkey (by decide +kernel)
    · obtain rfl : "[mysqldump]".toList = line := Option.some.inj hcounts.here
      exact hcounts.plain.not_header ⟨"mysqldump".toList, by decide⟩
    · exact absurd (sectionAfter_iff.2 hcounts.inside) (by decide +kernel)
  have hlines : ∀ line ∈ mixedAbove ++ mixedBelow, '\n' ∉ line := by
    simp [mixedAbove, mixedBelow]
  have hin : EndsInClient mixedAbove := sectionAfter_iff.1 (by decide +kernel)
  have hfield : ("ssl-ca", sslCa) ∈ textFields := by simp [textFields]
  exact ⟨⟨_, hok⟩,
    hquoted mixedAbove mixedBelow mixedLine _ _ hlines hin (by decide +kernel) hwrites
    _ hfield (by decide +kernel) hlater⟩

end MysqlMetrics.ClientConfig
