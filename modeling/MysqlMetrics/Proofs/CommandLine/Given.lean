import MysqlMetrics.Proofs.CommandLine.Line
/-!
# Flags as they are given

What a line says of one flag can be seen from its arguments, if the flag is the only one of its name
(`Sole`). An option stands with a text attached to it, before a text, or by itself (`Gives`), and
each way is an occurrence of it (`Line.valued_of_gives`, `Line.gives_of_valued`). Which of two
switches is the last is the same in the arguments as in the occurrences (`Line.lastOf_eq`). A name
with an equals sign in it cannot be given: what stands behind the sign is taken for a text.
-/
namespace MysqlMetrics.CommandLine

variable {flags : List Flag} {argv : List String} {occs : List Occurrence}

/-! ## Arguments as they are written -/

/-- An option stands among arguments with this text, or without any. -/
inductive Gives (name : String) : List String → Option String → Prop
  | attached {text : String} {argv : List String} :
    Gives name (longWith name text :: argv) (some text)
  | apart {argv rest : List String} {text : Option String} (h : Taken argv text rest) :
    Gives name (long name :: argv) text
  | later {arg : String} {argv : List String} {text : Option String} (h : Gives name argv text) :
    Gives name (arg :: argv) text

theorem gives_of_mem {name text : String} :
    ∀ {argv : List String}, longWith name text ∈ argv → Gives name argv (some text)
  | arg :: argv, h => by
    rcases List.mem_cons.1 h with h | h
    · exact h ▸ .attached
    · exact .later (gives_of_mem h)

/-- The last of two names in a list, if any: is it the first of the two? -/
def lastOf (on off : String) (names : List String) : Option Bool :=
  ((names.filter fun name => name == on || name == off).getLast?).map (· == on)

theorem lastOf_cons {on off name : String} {names : List String} (hne : on ≠ off) :
    lastOf on off (name :: names) = (lastOf on off names).or
      (if name = on then some true else if name = off then some false else none) := by
  unfold lastOf
  by_cases hon : name = on
  · subst hon
    cases h : (names.filter fun n => n == name || n == off).getLast? <;>
      simp [List.getLast?_cons, h]
  · by_cases hoff : name = off
    · subst hoff
      cases h : (names.filter fun n => n == on || n == name).getLast? <;>
        simp [List.getLast?_cons, h, hon]
    · simp [hon, hoff]

theorem lastOf_append {on off : String} {few names : List String}
    (h : ∀ name ∈ few, name ≠ on ∧ name ≠ off) :
    lastOf on off (few ++ names) = lastOf on off names := by
  have hnone : few.filter (fun name => name == on || name == off) = [] :=
    List.filter_eq_nil_iff.2 fun name hname => by simp [h name hname]
  rw [lastOf, List.filter_append, hnone]
  rfl

theorem lastOf_cons_of_ne {on off name : String} {names : List String}
    (h : name ≠ on ∧ name ≠ off) : lastOf on off (name :: names) = lastOf on off names :=
  @lastOf_append on off [name] names fun _ hname => List.mem_singleton.1 hname ▸ h

theorem toList_long (name : String) : (long name).toList = '-' :: '-' :: name.toList := by
  simp [long]

theorem toList_longWith (name text : String) :
    (longWith name text).toList = '-' :: '-' :: (name.toList ++ '=' :: text.toList) := by
  simp [longWith, long]

/-- A name that can be given: an equals sign would end it. -/
def Nameable (name : String) : Prop := name ≠ "" ∧ '=' ∉ name.toList

theorem long_inj {m n : String} : long m = long n ↔ m = n := String.append_right_inj _

theorem looksLikeFlag_longWith {name text : String} :
    looksLikeFlag (longWith name text) = true := by
  simp [looksLikeFlag, toList_longWith]

theorem looksLikeFlag_long {name : String} : looksLikeFlag (long name) = true := by
  simp [looksLikeFlag, toList_long]

theorem long_ne_longWith {m n text : String} (h : '=' ∉ m.toList) : long m ≠ longWith n text := by
  intro heq
  have hlists := congrArg String.toList heq
  rw [toList_long, toList_longWith] at hlists
  simp only [List.cons.injEq, true_and] at hlists
  exact h (hlists ▸ List.mem_append_right _ List.mem_cons_self)

/-- The first equals sign divides the name from the text. -/
theorem append_equals_inj : ∀ {a b t u : List Char}, '=' ∉ a → '=' ∉ b →
    a ++ '=' :: t = b ++ '=' :: u → a = b ∧ t = u
  | [], [], _, _, _, _, h => ⟨rfl, by simpa using h⟩
  | [], _ :: _, _, _, _, hb, h => absurd ((List.cons.inj h).1 ▸ List.mem_cons_self) hb
  | _ :: _, [], _, _, ha, _, h => absurd ((List.cons.inj h).1 ▸ List.mem_cons_self) ha
  | x :: a, y :: b, t, u, ha, hb, h => by
    obtain ⟨rfl, hrest⟩ : x = y ∧ a ++ '=' :: t = b ++ '=' :: u := by simpa using h
    obtain ⟨rfl, ht⟩ :=
      append_equals_inj (fun hm => ha (.tail _ hm)) (fun hm => hb (.tail _ hm)) hrest
    exact ⟨rfl, ht⟩

theorem longWith_inj {m n t u : String} (hm : '=' ∉ m.toList) (hn : '=' ∉ n.toList)
    (h : longWith m t = longWith n u) : m = n ∧ t = u := by
  have hlists := congrArg String.toList h
  simp only [toList_longWith, List.cons.injEq, true_and] at hlists
  obtain ⟨hname, htext⟩ := append_equals_inj hm hn hlists
  exact ⟨String.toList_inj.1 hname, String.toList_inj.1 htext⟩

theorem dashes_ne_long {name : String} (h : Nameable name) : "--" ≠ long name := by
  intro heq
  have hlists := congrArg String.toList heq
  simp [toList_long] at hlists
  exact h.1 hlists

theorem letters_ne {c : Char} {cs cs' : List Char} (hc : c ≠ '-') :
    String.ofList ('-' :: c :: cs) ≠ String.ofList ('-' :: '-' :: cs') := by
  intro h
  have hlists := congrArg String.toList h
  simp [hc] at hlists

theorem letters_ne_long {c : Char} {cs : List Char} {name : String} (hc : c ≠ '-') :
    String.ofList ('-' :: c :: cs) ≠ long name := by
  rw [← String.ofList_toList (s := long name), toList_long]
  exact letters_ne hc

theorem letters_ne_longWith {c : Char} {cs : List Char} {name text : String} (hc : c ≠ '-') :
    String.ofList ('-' :: c :: cs) ≠ longWith name text := by
  rw [← String.ofList_toList (s := longWith name text), toList_longWith]
  exact letters_ne hc

/-! ## A flag by itself -/

/-- A flag of its own name, without a letter. -/
structure Sole (flags : List Flag) (flag : Flag) : Prop where
  mem : flag ∈ flags
  only : ∀ f ∈ flags, f.name = flag.name → f = flag
  noLetter : flag.short = none

variable {flag on off : Flag} {reader : Reader} {lenient : Bool} {text : Option String}

theorem Taken.unique {rest rest' : List String} {text' : Option String} (h : Taken argv text rest)
    (h' : Taken argv text' rest') : text = text' ∧ rest = rest' := by
  cases h with
  | text ht =>
    cases h' with
    | text => exact ⟨rfl, rfl⟩
    | nothing hn => simp [ht] at hn
  | nothing hn =>
    cases h' with
    | text ht => simp [ht] at hn
    | nothing => exact ⟨rfl, rfl⟩

/-- What an option has taken as its text gives no flag. -/
theorem Taken.gives {rest : List String} {text' : Option String} {name : String}
    (ht : Taken argv text rest) (h : Gives name argv text') : Gives name rest text' := by
  cases ht with
  | nothing => exact h
  | text ht =>
    cases h with
    | attached => simp [looksLikeFlag_longWith] at ht
    | apart => simp [looksLikeFlag_long] at ht
    | later h => exact h

/-- What is given by name has an occurrence, and that says with which text. -/
theorem Line.valued_of_gives (h : Line flags argv occs) (hs : Sole flags flag)
    (ha : flag.action = .value reader lenient) (hname : Nameable flag.name)
    (hg : Gives flag.name argv text) : .valued flag reader lenient text ∈ occs := by
  induction h with
  | nil => cases hg
  | stop =>
    generalize hl : ["--"] = argv at hg
    cases hg with
    | attached =>
      have hlists := congrArg (List.map String.toList) hl
      simp [toList_longWith] at hlists
    | apart =>
      exact absurd (List.cons.inj hl).1 (dashes_ne_long hname)
    | later h => cases hl; cases h
  | @raised g argv occs hf hact _ ih =>
    generalize hl : long g.name :: argv = line at hg
    cases hg with
    | attached => exact absurd (List.cons.inj hl).1 (long_ne_longWith hf.2)
    | apart =>
      have hg := hs.only g hf.1 (long_inj.1 (List.cons.inj hl).1)
      exact absurd (hg ▸ ha) (hact reader lenient)
    | later h => cases hl; exact .tail _ (ih h)
  | @attached g reader' lenient' argv occs hf hact text' _ ih =>
    generalize hl : longWith g.name text' :: argv = line at hg
    cases hg with
    | attached =>
      obtain ⟨hn, rfl⟩ := longWith_inj hf.2 hname.2 (List.cons.inj hl).1
      obtain rfl := hs.only g hf.1 hn
      cases hact.symm.trans ha
      exact .head _
    | apart => exact absurd (List.cons.inj hl).1.symm (long_ne_longWith hname.2)
    | later h => cases hl; exact .tail _ (ih h)
  | @apart g reader' lenient' argv rest text' occs hf hact ht _ ih =>
    generalize hl : long g.name :: argv = line at hg
    cases hg with
    | attached => exact absurd (List.cons.inj hl).1 (long_ne_longWith hf.2)
    | apart ht' =>
      obtain ⟨hn, rfl⟩ := List.cons.inj hl
      obtain rfl := hs.only g hf.1 (long_inj.1 hn)
      cases hact.symm.trans ha
      obtain ⟨rfl, -⟩ := ht.unique ht'
      exact .head _
    | later h => cases hl; exact .tail _ (ih (ht.gives h))
  | @letters c cs raised argv occs hc _ _ ih =>
    generalize hl : String.ofList ('-' :: c :: cs) :: argv = line at hg
    cases hg with
    | attached => exact absurd (List.cons.inj hl).1 (letters_ne_longWith hc)
    | apart => exact absurd (List.cons.inj hl).1 (letters_ne_long hc)
    | later h => cases hl; exact List.mem_append_right _ (ih h)

/-- What stands in an accepted line is read in no other way. -/
def Occurrence.Proper (flags : List Flag) : Occurrence → Prop
  | raised flag => Known flags flag ∧ ∀ reader lenient, flag.action ≠ .value reader lenient
  | valued flag reader lenient _ => Known flags flag ∧ flag.action = .value reader lenient

theorem Line.proper (h : Line flags argv occs) {o : Occurrence} (ho : o ∈ occs) :
    o.flag ∈ flags ∧ (o.flag.short = none → o.Proper flags) := by
  induction h with
  | nil | stop => cases ho
  | raised hf hact _ ih =>
    rcases List.mem_cons.1 ho with rfl | ho
    · exact ⟨hf.1, fun _ => ⟨hf, hact⟩⟩
    · exact ih ho
  | attached hf hact _ _ ih | apart hf hact _ _ ih =>
    rcases List.mem_cons.1 ho with rfl | ho
    · exact ⟨hf.1, fun _ => ⟨hf, hact⟩⟩
    · exact ih ho
  | letters _ hr _ ih =>
    rcases List.mem_append.1 ho with ho | ho
    · obtain ⟨f, hf, rfl⟩ := List.mem_map.1 ho
      refine ⟨(hr f hf).1, fun hnone => ?_⟩
      have hsome := (hr f hf).2
      rw [show f.short = none from hnone] at hsome
      cases hsome
    · exact ih ho

/-- A flag by itself occurs in the one way that its action admits. -/
theorem Line.proper_of_name (h : Line flags argv occs) (hs : Sole flags flag) {o : Occurrence}
    (ho : o ∈ occs) (hname : o.flag.name = flag.name) : o.flag = flag ∧ o.Proper flags := by
  obtain ⟨hmem, hproper⟩ := h.proper ho
  have hflag := hs.only _ hmem hname
  exact ⟨hflag, hproper (hflag ▸ hs.noLetter)⟩

theorem Taken.of_gives {rest : List String} {text' : Option String} {name : String}
    (ht : Taken argv text rest) (h : Gives name rest text') : Gives name argv text' := by
  cases ht with
  | nothing => exact h
  | text => exact .later h

theorem Line.gives_of_valued (h : Line flags argv occs)
    (ho : .valued flag reader lenient text ∈ occs) : Gives flag.name argv text := by
  induction h with
  | nil | stop => cases ho
  | raised _ _ _ ih =>
    rcases List.mem_cons.1 ho with ho | ho
    · cases ho
    · exact .later (ih ho)
  | attached _ _ _ _ ih =>
    rcases List.mem_cons.1 ho with ho | ho
    · cases ho; exact .attached
    · exact .later (ih ho)
  | apart _ _ ht _ ih =>
    rcases List.mem_cons.1 ho with ho | ho
    · cases ho; exact .apart ht
    · exact .later (ht.of_gives (ih ho))
  | letters _ _ _ ih =>
    rcases List.mem_append.1 ho with ho | ho
    · simp at ho
    · exact .later (ih ho)

/-! ## Two switches -/

/-- Two switches that override each other, and that no other flag overrides. -/
structure Opposed (flags : List Flag) (on off : Flag) : Prop where
  soleOn : Sole flags on
  soleOff : Sole flags off
  actionOn : on.action = .switch (some off.name)
  actionOff : off.action = .switch (some on.name)
  keptOn : ∀ f ∈ flags, f.action = .switch (some on.name) → f = off
  keptOff : ∀ f ∈ flags, f.action = .switch (some off.name) → f = on
  apart : on.name ≠ off.name
  nameOn : Nameable on.name
  nameOff : Nameable off.name

theorem Opposed.symm (h : Opposed flags on off) : Opposed flags off on :=
  ⟨h.soleOff, h.soleOn, h.actionOff, h.actionOn, h.keptOff, h.keptOn, h.apart.symm,
    h.nameOff, h.nameOn⟩

theorem Taken.lastOf_eq {rest : List String} (ht : Taken argv text rest) :
    lastOf (long on.name) (long off.name) argv = lastOf (long on.name) (long off.name) rest := by
  cases ht with
  | nothing => rfl
  | text ht =>
    refine lastOf_cons_of_ne ⟨?_, ?_⟩ <;> rintro rfl <;> simp [looksLikeFlag_long] at ht

/-- Which switch was last can be seen from the arguments. -/
theorem Line.lastOf_eq (h : Line flags argv occs) (hop : Opposed flags on off) :
    lastOf (long on.name) (long off.name) argv =
      lastOf on.name off.name (occs.map (·.flag.name)) := by
  have hlong : long on.name ≠ long off.name := mt long_inj.1 hop.apart
  have hoption : ∀ {f : Flag} {reader : Reader} {lenient : Bool}, Known flags f →
      f.action = .value reader lenient → f.name ≠ on.name ∧ f.name ≠ off.name := by
    refine fun {f _ _} hf ha => ⟨fun hn => ?_, fun hn => ?_⟩
    · cases hop.soleOn.only f hf.1 hn
      cases ha.symm.trans hop.actionOn
    · cases hop.soleOff.only f hf.1 hn
      cases ha.symm.trans hop.actionOff
  induction h with
  | nil => rfl
  | stop => exact lastOf_cons_of_ne ⟨dashes_ne_long hop.nameOn, dashes_ne_long hop.nameOff⟩
  | raised _ _ _ ih =>
    rw [List.map_cons, lastOf_cons hlong, lastOf_cons hop.apart, ih]
    simp only [long_inj, Occurrence.flag_raised]
    rfl
  | attached hf ha _ _ ih =>
    rw [List.map_cons, Occurrence.flag_valued, lastOf_cons_of_ne (hoption hf ha), ← ih]
    exact lastOf_cons_of_ne
      ⟨(long_ne_longWith hop.nameOn.2).symm, (long_ne_longWith hop.nameOff.2).symm⟩
  | apart hf ha ht _ ih =>
    obtain ⟨hon, hoff⟩ := hoption hf ha
    rw [List.map_cons, Occurrence.flag_valued, lastOf_cons_of_ne (hoption hf ha), ← ih,
      ← ht.lastOf_eq]
    exact lastOf_cons_of_ne ⟨mt long_inj.1 hon, mt long_inj.1 hoff⟩
  | @letters c cs raised argv occs hc hr _ ih =>
    have hnot : ∀ name ∈ raised.map (·.name), name ≠ on.name ∧ name ≠ off.name :=
      fun name hname => by
      obtain ⟨f, hf, rfl⟩ := List.mem_map.1 hname
      obtain ⟨hmem, hsome⟩ := hr f hf
      refine ⟨fun hn => ?_, fun hn => ?_⟩
      · simp [hop.soleOn.only f hmem hn, hop.soleOn.noLetter] at hsome
      · simp [hop.soleOff.only f hmem hn, hop.soleOff.noLetter] at hsome
    have hraised : (raised.map Occurrence.raised ++ occs).map (·.flag.name) =
        raised.map (·.name) ++ occs.map (·.flag.name) := by
      simp [Function.comp_def]
    rw [hraised, lastOf_append hnot, ← ih]
    refine lastOf_cons_of_ne ⟨letters_ne_long hc, letters_ne_long hc⟩

end MysqlMetrics.CommandLine
