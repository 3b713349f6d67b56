import Mathlib.Data.List.TakeWhile
import MysqlMetrics.CommandLine
import MysqlMetrics.Proofs.Results
/-!
# What a command line says

A command line that is accepted is a line of flags: switches, options with a text attached to them
by an equals sign, options before their text, options without any, and letters behind one dash
(`Line`). Each is an occurrence of a flag, and what is found is what they come to when they are
noted one after another (`exists_line`). An argument that looks like a flag is never the text of an
option.
-/
namespace MysqlMetrics.CommandLine

/-! ## Occurrences -/

/-- A flag where a command line has it. -/
inductive Occurrence where
  | raised (flag : Flag)
  /-- An option, with its text if it has one. -/
  | valued (flag : Flag) (reader : Reader) (lenient : Bool) (text : Option String)

namespace Occurrence

def flag : Occurrence → Flag
  | raised flag => flag
  | valued flag _ _ _ => flag

@[simp] theorem flag_raised (f : Flag) : (raised f).flag = f := rfl

@[simp] theorem flag_valued (f : Flag) (reader : Reader) (lenient : Bool) (text : Option String) :
    (valued f reader lenient text).flag = f := rfl

end Occurrence

variable {flags : List Flag} {flag : Flag} {reader : Reader} {lenient : Bool} {s s' s'' : State}

/-- The value of an option that stands with this text, or without any. -/
def readGiven (reader : Reader) (lenient : Bool) : Option String → Except Refusal Value
  | some text => reader.read text
  | none => if lenient then .ok (.bool true) else .error .invalidValue

def Occurrence.note (flags : List Flag) : Occurrence → Matches → Except Refusal Matches
  | raised flag, found =>
    match flag.action with
    | .help => .error .displayHelp
    | .version => .error .displayVersion
    | .counter =>
      let n := ((Matches.int? found flag.name).getD 0) + 1
      .ok (found.remove flag.name ++ [(flag.name, .int (min n 255))])
    | _ => record flags flag (.bool true) found
  | valued flag reader lenient text, found => do
    record flags flag (← readGiven reader lenient text) found

/-- Notes occurrences in turn. -/
def noteAll (flags : List Flag) : List Occurrence → Matches → Except Refusal Matches
  | [], found => .ok found
  | o :: occs, found => do noteAll flags occs (← o.note flags found)

theorem noteAll_append {occs more : List Occurrence} {found found' found'' : Matches}
    (h : noteAll flags occs found = .ok found') (hm : noteAll flags more found' = .ok found'') :
    noteAll flags (occs ++ more) found = .ok found'' := by
  induction occs generalizing found with
  | nil => cases h; exact hm
  | cons o occs ih =>
    obtain ⟨found₁, ho, h⟩ := bind_eq_ok.1 h
    exact bind_eq_ok.2 ⟨found₁, ho, ih h⟩

theorem noteAll_one {o : Occurrence} {found found' : Matches}
    (h : o.note flags found = .ok found') :
    noteAll flags [o] found = .ok found' := bind_eq_ok.2 ⟨found', h, rfl⟩

/-! ## What each step of the reader notes -/

/-- The occurrence that has been met and not been noted yet. -/
def State.met (s : State) : List Occurrence :=
  (s.pending.map fun p => .valued p.flag p.reader p.lenient p.value).toList

theorem noteAll_settle (h : settle flags s = .ok s') :
    noteAll flags s.met s.found = .ok s'.found ∧ s'.pending = none := by
  unfold settle at h
  unfold State.met
  cases hp : s.pending with
  | none => rw [hp] at h; cases h; exact ⟨rfl, hp⟩
  | some p =>
    simp only [hp] at h
    cases hv : p.value with
    | none =>
      simp only [hv] at h
      split at h
      · cases h
      · rename_i hl
        obtain ⟨found, hr, h⟩ := bind_eq_ok.1 h
        cases h
        refine ⟨noteAll_one (bind_eq_ok.2 ⟨.bool true, ?_, hr⟩), rfl⟩
        simpa [readGiven, hv] using hl
    | some text =>
      simp only [hv] at h
      split at h
      · cases h
      · obtain ⟨value, hread, h⟩ := bind_eq_ok.1 h
        obtain ⟨found, hr, h⟩ := bind_eq_ok.1 h
        cases h
        exact ⟨noteAll_one (bind_eq_ok.2 ⟨value, by simpa [readGiven, hv] using hread, hr⟩), rfl⟩

/-- Nothing is met that has not been noted, and no text is waited for. -/
def State.Settled (s : State) : Prop := s.pending = none ∧ s.expecting = false

theorem State.Settled.met_eq (h : s.Settled) : s.met = [] := by
  simp [State.met, h.1]

theorem noteAll_raise (h : raise flags flag s = .ok s') :
    noteAll flags (s.met ++ [.raised flag]) s.found = .ok s'.found ∧ s'.Settled := by
  obtain ⟨s₁, hs, h⟩ := bind_eq_ok.1 h
  obtain ⟨hmet, hnone⟩ := noteAll_settle hs
  have hone : (Occurrence.raised flag).note flags s₁.found = .ok s'.found ∧ s'.Settled := by
    simp only [Occurrence.note]
    cases ha : flag.action with
    | help | version => simp [ha] at h
    | counter => simp only [ha] at h; cases h; exact ⟨rfl, hnone, rfl⟩
    | switch | value =>
      simp only [ha] at h
      obtain ⟨found, hr, h⟩ := bind_eq_ok.1 h
      cases h
      exact ⟨hr, hnone, rfl⟩
  exact ⟨noteAll_append hmet (noteAll_one hone.1), hone.2⟩

theorem noteAll_raiseOption_some {text : String}
    (h : raiseOption flags flag reader lenient (some text) s = .ok s') :
    noteAll flags (s.met ++ [.valued flag reader lenient (some text)]) s.found = .ok s'.found ∧
      s'.Settled := by
  obtain ⟨s₁, hs, h⟩ := bind_eq_ok.1 h
  obtain ⟨s₂, hs₂, h⟩ := bind_eq_ok.1 h
  cases h
  obtain ⟨hone, hnone⟩ := noteAll_settle hs₂
  exact ⟨noteAll_append (noteAll_settle hs).1 hone, hnone, rfl⟩

theorem noteAll_raiseOption_none (h : raiseOption flags flag reader lenient none s = .ok s') :
    noteAll flags s.met s.found = .ok s'.found ∧
      s'.pending = some ⟨flag, reader, lenient, none⟩ ∧ s'.expecting = true := by
  obtain ⟨s₁, hs, h⟩ := bind_eq_ok.1 h
  cases h
  exact ⟨(noteAll_settle hs).1, rfl, rfl⟩

theorem noteAll_readShorts : ∀ {c : Char} {cs : List Char} {s : State},
    readShorts flags (c :: cs) s = .ok s' → ∃ raised : List Flag,
      (∀ f ∈ raised, f ∈ flags ∧ f.short.isSome) ∧
        noteAll flags (s.met ++ raised.map .raised) s.found = .ok s'.found ∧ s'.Settled
  | c, cs, s, h => by
    unfold readShorts at h
    split at h
    · cases h
    rename_i flag hf
    have hshort : flag.short = some c := by simpa using List.find?_some hf
    have hflag : flag ∈ flags ∧ flag.short.isSome :=
      ⟨List.mem_of_find?_eq_some hf, by simp [hshort]⟩
    obtain ⟨s₁, hr, h⟩ := bind_eq_ok.1 h
    obtain ⟨hone, hs₁⟩ := noteAll_raise hr
    cases cs with
    | nil => cases h; exact ⟨[flag], by simpa using hflag, hone, hs₁⟩
    | cons c' cs =>
      obtain ⟨raised, hmem, hrest, hs'⟩ := noteAll_readShorts h
      rw [hs₁.met_eq, List.nil_append] at hrest
      refine ⟨flag :: raised, ?_, ?_, hs'⟩
      · simpa using ⟨hflag, hmem⟩
      · simpa using noteAll_append hone hrest

/-! ## Lines -/

def long (name : String) : String := "--" ++ name

/-- An option with the text attached to it. -/
def longWith (name text : String) : String := long name ++ "=" ++ text

/-- Does an argument begin with a dash and go on? -/
def looksLikeFlag (arg : String) : Bool :=
  match arg.toList with
  | '-' :: _ :: _ => true
  | _ => false

/-- What an option takes of the arguments behind it: the next one, unless that looks like a flag. -/
inductive Taken : List String → Option String → List String → Prop
  | text {text : String} {rest : List String} (h : looksLikeFlag text = false) :
    Taken (text :: rest) (some text) rest
  | nothing {argv : List String} (h : ∀ arg ∈ argv.head?, looksLikeFlag arg = true) :
    Taken argv none argv

/-- The flag can be given by its name. -/
def Known (flags : List Flag) (flag : Flag) : Prop := flag ∈ flags ∧ '=' ∉ flag.name.toList

inductive Line (flags : List Flag) : List String → List Occurrence → Prop
  | nil : Line flags [] []
  | stop : Line flags ["--"] []
  | raised {flag : Flag} {argv : List String} {occs : List Occurrence} (hf : Known flags flag)
    (ha : ∀ reader lenient, flag.action ≠ .value reader lenient) (h : Line flags argv occs) :
    Line flags (long flag.name :: argv) (.raised flag :: occs)
  | attached {flag : Flag} {reader : Reader} {lenient : Bool} {argv : List String}
    {occs : List Occurrence} (hf : Known flags flag) (ha : flag.action = .value reader lenient)
    (text : String) (h : Line flags argv occs) :
    Line flags (longWith flag.name text :: argv) (.valued flag reader lenient (some text) :: occs)
  | apart {flag : Flag} {reader : Reader} {lenient : Bool} {argv rest : List String}
    {text : Option String} {occs : List Occurrence} (hf : Known flags flag)
    (ha : flag.action = .value reader lenient) (ht : Taken argv text rest)
    (h : Line flags rest occs) :
    Line flags (long flag.name :: argv) (.valued flag reader lenient text :: occs)
  | letters {c : Char} {cs : List Char} {raised : List Flag} {argv : List String}
    {occs : List Occurrence} (hc : c ≠ '-') (hr : ∀ f ∈ raised, f ∈ flags ∧ f.short.isSome)
    (h : Line flags argv occs) :
    Line flags (String.ofList ('-' :: c :: cs) :: argv) (raised.map .raised ++ occs)

/-! ## Reading a line -/

theorem exists_looksLikeFlag {arg : String} (h : looksLikeFlag arg = true) :
    ∃ c cs, arg.toList = '-' :: c :: cs := by
  unfold looksLikeFlag at h
  split at h
  · rename_i c cs heq
    exact ⟨c, cs, heq⟩
  · cases h

/-- A name that can be given, and the text attached to it. -/
theorem readLong_eq_ok {body : List Char} (h : readLong flags body s = .ok s') :
    ∃ flag, Known flags flag ∧
      ((∃ reader lenient text, flag.action = .value reader lenient ∧
          body = flag.name.toList ++ '=' :: text ∧
            raiseOption flags flag reader lenient (some (String.ofList text)) s = .ok s') ∨
        (∃ reader lenient, flag.action = .value reader lenient ∧ body = flag.name.toList ∧
            raiseOption flags flag reader lenient none s = .ok s') ∨
        (∀ reader lenient, flag.action ≠ .value reader lenient) ∧ body = flag.name.toList ∧
            raise flags flag s = .ok s') := by
  simp only [readLong] at h
  split at h
  · cases h
  rename_i flag hf
  have hname : flag.name = String.ofList (body.takeWhile (· != '=')) := by
    simpa using List.find?_some hf
  have hlist : flag.name.toList = body.takeWhile (· != '=') := by simp [hname]
  have hknown : Known flags flag := by
    refine ⟨List.mem_of_find?_eq_some hf, fun hmem => ?_⟩
    rw [hlist] at hmem
    simpa using List.mem_takeWhile_imp hmem
  have hbody : body = flag.name.toList ++ body.dropWhile (· != '=') := by
    rw [hlist, List.takeWhile_append_dropWhile]
  refine ⟨flag, hknown, ?_⟩
  cases hd : body.dropWhile (· != '=') with
  | nil =>
    rw [hd, List.append_nil] at hbody
    simp only [hd] at h
    cases ha : flag.action with
    | value reader lenient =>
      simp only [ha] at h
      exact .inr (.inl ⟨reader, lenient, rfl, hbody, h⟩)
    | switch | counter | help | version =>
      simp only [ha, Option.isSome_none, Bool.false_eq_true, if_false] at h
      exact .inr (.inr ⟨by simp, hbody, h⟩)
  | cons c text =>
    have hc : c = '=' := by
      have hhead := List.head_dropWhile_not (l := body) (· != '=') (by simp [hd])
      simpa [hd] using hhead
    rw [hd, hc] at hbody
    simp only [hd] at h
    cases ha : flag.action with
    | value reader lenient =>
      simp only [ha] at h
      exact .inl ⟨reader, lenient, text, rfl, hbody, h⟩
    | switch | counter | help | version => simp [ha] at h

theorem readArguments_plain {arg : String} {rest : List String} (h : looksLikeFlag arg = false) :
    readArguments flags (arg :: rest) s = (readPlain arg s >>= readArguments flags rest) := by
  unfold looksLikeFlag at h
  unfold readArguments
  split
  · rename_i heq; simp [heq] at h
  · rename_i heq; simp [heq] at h
  · rename_i heq; simp [heq] at h
  · rfl

/-- What the reader comes to from a state is what a line of flags says. -/
def Reads (flags : List Flag) (argv : List String) (s s'' : State) : Prop :=
  ∃ occs, Line flags argv occs ∧ noteAll flags (s.met ++ occs) s.found = .ok s''.found

/-- The same where an option waits for its text. -/
def ReadsOn (flags : List Flag) (argv : List String) (flag : Flag) (reader : Reader)
    (lenient : Bool) (s s'' : State) : Prop :=
  ∃ text rest occs, Taken argv text rest ∧ Line flags rest occs ∧
    noteAll flags (.valued flag reader lenient text :: occs) s.found = .ok s''.found

theorem Reads.readsOn {argv : List String} (h : Reads flags argv s s'')
    (hp : s.pending = some ⟨flag, reader, lenient, none⟩)
    (hhead : ∀ arg ∈ argv.head?, looksLikeFlag arg = true) :
    ReadsOn flags argv flag reader lenient s s'' := by
  obtain ⟨occs, hl, hn⟩ := h
  exact ⟨none, argv, occs, .nothing hhead, hl, by simpa [State.met, hp] using hn⟩

/-- A flag and what follows it, if what follows is read as a line. -/
theorem reads_of_flag {arg : String} {rest : List String} (hflag : looksLikeFlag arg = true)
    (h : readArguments flags (arg :: rest) s = .ok s') (hs : settle flags s' = .ok s'')
    (ih : ∀ {s₁ : State}, readArguments flags rest s₁ = .ok s' →
      (s₁.expecting = false → Reads flags rest s₁ s'') ∧
        ∀ flag reader lenient, s₁.pending = some ⟨flag, reader, lenient, none⟩ →
          s₁.expecting = true → ReadsOn flags rest flag reader lenient s₁ s'') :
    Reads flags (arg :: rest) s s'' := by
  obtain ⟨c, cs, hlist⟩ := exists_looksLikeFlag hflag
  unfold readArguments at h
  split at h
  · rename_i heq
    split at h
    · rename_i hrest
      cases h
      have harg : arg = "--" := String.toList_inj.1 heq
      refine ⟨[], ?_, by simpa using (noteAll_settle hs).1⟩
      rw [harg, List.isEmpty_iff.1 hrest]
      exact .stop
    · cases h
  · rename_i body _ heq
    obtain ⟨s₁, hone, h⟩ := bind_eq_ok.1 h
    obtain ⟨flag, hf, ⟨reader, lenient, text, ha, hb, hr⟩ | ⟨reader, lenient, ha, hb, hr⟩ |
      ⟨ha, hb, hr⟩⟩ := readLong_eq_ok hone
    · obtain ⟨hnote, hsettled⟩ := noteAll_raiseOption_some hr
      obtain ⟨occs, hl, hn⟩ := (ih h).1 hsettled.2
      have harg : arg = longWith flag.name (String.ofList text) :=
        String.toList_inj.1 (by simp [heq, hb, longWith, long])
      subst harg
      rw [hsettled.met_eq, List.nil_append] at hn
      exact ⟨_, .attached hf ha _ hl, by simpa using noteAll_append hnote hn⟩
    · obtain ⟨hnote, hp, he⟩ := noteAll_raiseOption_none hr
      obtain ⟨text, rest', occs, ht, hl, hn⟩ := (ih h).2 _ _ _ hp he
      have harg : arg = long flag.name := String.toList_inj.1 (by simp [heq, hb, long])
      subst harg
      exact ⟨_, .apart hf ha ht hl, noteAll_append hnote hn⟩
    · obtain ⟨hnote, hsettled⟩ := noteAll_raise hr
      obtain ⟨occs, hl, hn⟩ := (ih h).1 hsettled.2
      have harg : arg = long flag.name := String.toList_inj.1 (by simp [heq, hb, long])
      subst harg
      rw [hsettled.met_eq, List.nil_append] at hn
      exact ⟨_, .raised hf ha hl, by simpa using noteAll_append hnote hn⟩
  · rename_i c' body _ hno heq
    obtain ⟨s₁, hone, h⟩ := bind_eq_ok.1 h
    obtain ⟨raised, hmem, hnote, hsettled⟩ := noteAll_readShorts hone
    obtain ⟨occs, hl, hn⟩ := (ih h).1 hsettled.2
    have harg : arg = String.ofList ('-' :: c' :: body) := String.toList_inj.1 (by simp [heq])
    subst harg
    rw [hsettled.met_eq, List.nil_append] at hn
    exact ⟨_, .letters hno hmem hl, by simpa using noteAll_append hnote hn⟩
  · rename_i hno
    exact absurd hlist (hno c cs)

theorem reads : ∀ {argv : List String} {s : State}, readArguments flags argv s = .ok s' →
    settle flags s' = .ok s'' → (s.expecting = false → Reads flags argv s s'') ∧
      ∀ flag reader lenient, s.pending = some ⟨flag, reader, lenient, none⟩ →
        s.expecting = true → ReadsOn flags argv flag reader lenient s s''
  | [], s, h, hs => by
    cases h
    have hend : Reads flags [] s' s'' := ⟨[], .nil, by simpa using (noteAll_settle hs).1⟩
    exact ⟨fun _ => hend, fun _ _ _ hp _ => hend.readsOn hp (by simp)⟩
  | arg :: rest, s, h, hs => by
    cases hflag : looksLikeFlag arg with
    | true =>
      have hreads := reads_of_flag hflag h hs fun h₁ => reads h₁ hs
      exact ⟨fun _ => hreads, fun _ _ _ hp _ => hreads.readsOn hp (by simpa using hflag)⟩
    | false =>
      rw [readArguments_plain hflag] at h
      obtain ⟨s₁, hone, h⟩ := bind_eq_ok.1 h
      refine ⟨fun he => ?_, fun flag reader lenient hp he => ?_⟩
      · unfold readPlain at hone
        split at hone <;> simp [he] at hone
      · simp only [readPlain, hp, he, if_true] at hone
        cases hone
        obtain ⟨occs, hl, hn⟩ := (reads h hs).1 rfl
        exact ⟨some arg, rest, occs, .text hflag, hl, hn⟩

/-- What is found on an accepted command line is what its occurrences come to. -/
theorem exists_line {argv : List String} (h : readArguments flags argv {} = .ok s')
    (hs : settle flags s' = .ok s'') :
    ∃ occs, Line flags argv occs ∧ noteAll flags occs [] = .ok s''.found := (reads h hs).1 rfl

end MysqlMetrics.CommandLine
