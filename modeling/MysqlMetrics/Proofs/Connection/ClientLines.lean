import Mathlib
import MysqlMetrics.Connection.OptionFile
import MysqlMetrics.Proofs.Text
/-!
# Which lines of an option file count

A line counts if it is no blank one, no comment and no header, and the last header above it is one
of the client section (`CountsAt`). The lines that are read are those that count, each once and in
their order (`areClientLines`), and which they are is fixed by the file (`AreClientLines.unique`).
-/
namespace MysqlMetrics.ClientConfig

variable {lines above : List (List Char)} {raw line name : List Char} {inside : Bool} {i : Nat}

/-! ## Files and their lines -/

/-- The lines of a file, as they stand. -/
def linesOf (content : String) : List (List Char) := Text.splitList (· == '\n') content.toList

/-- The file of some lines. -/
def fileOf (lines : List (List Char)) : String := .ofList (['\n'].intercalate lines)

theorem linesOf_fileOf (hne : lines ≠ []) (h : ∀ line ∈ lines, '\n' ∉ line) :
    linesOf (fileOf lines) = lines := by
  rw [linesOf, fileOf, String.toList_ofList]
  exact Text.splitList_intercalate hne h

/-! ## Sections -/

/-- A header: a name in brackets. -/
def IsHeader (line : List Char) : Prop := ∃ name, line = '[' :: name ++ [']']

/-- A header of the client section: letters in any case, and blanks around the name. -/
def IsClientHeader (line : List Char) : Prop :=
  ∃ before name after, (∀ c ∈ before, Text.isBlank c = true) ∧
    (∀ c ∈ after, Text.isBlank c = true) ∧ name.map Char.toLower = "client".toList ∧
    line = '[' :: (before ++ name ++ after) ++ [']']

/-- A line that is neither blank nor a comment nor a header. -/
structure IsPlain (line : List Char) : Prop where
  not_blank : line ≠ []
  not_comment : isComment line = false
  not_header : ¬ IsHeader line

/-- What comes after some lines is in the client section: their last header is one of it. -/
def EndsInClient (above : List (List Char)) : Prop :=
  ∃ pre header post, above = pre ++ header :: post ∧ IsClientHeader (Text.trimList header) ∧
    ∀ line ∈ post, ¬ IsHeader (Text.trimList line)

/-- The line at a place, without the blanks around it, counts. -/
structure CountsAt (lines : List (List Char)) (i : Nat) (line : List Char) : Prop where
  here : lines[i]?.map Text.trimList = some line
  plain : IsPlain line
  inside : EndsInClient (lines.take i)

/-- All lines of a file that count, in their order. -/
def AreClientLines (lines found : List (List Char)) : Prop :=
  ∃ places : List Nat, places.Pairwise (· < ·) ∧
    (∀ i, i ∈ places ↔ ∃ line, CountsAt lines i line) ∧
    List.Forall₂ (CountsAt lines) places found

/-! ## Headers are told apart -/

theorem header?_eq_some : header? line = some name ↔ line = '[' :: name ++ [']'] := by
  unfold header?
  constructor
  · intro h
    split at h
    case h_2 => cases h
    case h_1 rest =>
      split at h
      case h_2 => cases h
      case h_1 back hback =>
        cases h
        rw [← List.reverse_reverse rest, hback]
        simp
  · rintro rfl
    simp

theorem isHeader_iff : IsHeader line ↔ ∃ name, header? line = some name :=
  exists_congr fun _ => header?_eq_some.symm

theorem IsClientHeader.isHeader (h : IsClientHeader line) : IsHeader line := by
  obtain ⟨before, name, after, -, -, -, rfl⟩ := h
  exact ⟨_, rfl⟩

theorem header?_eq_none (h : ¬ IsHeader line) : header? line = none :=
  Option.eq_none_iff_forall_ne_some.2 fun name hname => h (isHeader_iff.2 ⟨name, hname⟩)

theorem isClientHeader_iff (h : header? line = some name) :
    isClientHeader name = true ↔ IsClientHeader line := by
  have hclient : isClientHeader name = true ↔
      (Text.trimList name).map Char.toLower = "client".toList := by
    rw [isClientHeader, Text.sameIgnoringCase_iff, ← String.toList_inj, Text.toList_asciiLower,
      String.toList_ofList]
    rfl
  have hline : line = '[' :: name ++ [']'] := header?_eq_some.1 h
  rw [hclient]
  constructor
  · intro hname
    obtain ⟨before, after, hb, ha, heq⟩ := Text.exists_trimList name
    exact ⟨before, _, after, hb, ha, hname, by rw [hline, ← heq]⟩
  · rintro ⟨before, core, after, hb, ha, hcore, heq⟩
    have hname : name = before ++ core ++ after := by
      rw [hline] at heq
      exact List.append_cancel_right (List.cons.inj heq).2
    have hletters : ∀ c ∈ "client".toList, c.isAlpha = true :=
      List.all_eq_true.1 (by decide)
    have hplain : ∀ c ∈ core, Text.isBlank c = false := fun c hc => by
      have halpha := hletters _ (hcore ▸ List.mem_map_of_mem hc)
      rw [Char.isAlpha_toLower_eq_isAlpha] at halpha
      obtain ⟨hlow, hhigh⟩ := Text.toNat_of_isAlpha halpha
      exact Text.isBlank_ascii (by omega) (by omega)
    rw [hname, Text.trimList_between hb ha hplain, hcore]

/-! ## One line after the other -/

/-- Is the client section open behind some lines? -/
def sectionAfter (inside : Bool) (lines : List (List Char)) : Bool :=
  lines.foldl
    (fun inside raw => ((header? (Text.trimList raw)).map isClientHeader).getD inside) inside

theorem sectionAfter_append_one (inside : Bool) (lines : List (List Char)) (raw : List Char) :
    sectionAfter inside (lines ++ [raw]) =
      ((header? (Text.trimList raw)).map isClientHeader).getD (sectionAfter inside lines) := by
  rw [sectionAfter, List.foldl_append]
  rfl

theorem endsInClient_append_header (h : IsHeader (Text.trimList raw)) :
    EndsInClient (above ++ [raw]) ↔ IsClientHeader (Text.trimList raw) := by
  constructor
  · rintro ⟨pre, header, post, heq, hclient, hpost⟩
    rcases List.eq_nil_or_concat' post with rfl | ⟨post, last, rfl⟩
    · obtain ⟨-, hraw⟩ := List.append_inj' heq rfl
      cases hraw
      exact hclient
    · rw [← List.cons_append, ← List.append_assoc] at heq
      obtain ⟨-, hlast⟩ := List.append_inj' heq rfl
      cases hlast
      exact absurd h (hpost raw (by simp))
  · exact fun hclient => ⟨above, raw, [], rfl, hclient, by simp⟩

theorem endsInClient_append_other (h : ¬ IsHeader (Text.trimList raw)) :
    EndsInClient (above ++ [raw]) ↔ EndsInClient above := by
  constructor
  · rintro ⟨pre, header, post, heq, hclient, hpost⟩
    rcases List.eq_nil_or_concat' post with rfl | ⟨post, last, rfl⟩
    · obtain ⟨-, hraw⟩ := List.append_inj' heq rfl
      cases hraw
      exact absurd hclient.isHeader h
    · rw [← List.cons_append, ← List.append_assoc] at heq
      obtain ⟨habove, -⟩ := List.append_inj' heq rfl
      exact ⟨pre, header, post, habove, hclient, fun line hline => hpost line (by simp [hline])⟩
  · rintro ⟨pre, header, post, rfl, hclient, hpost⟩
    refine ⟨pre, header, post ++ [raw], by simp, hclient, fun line hline => ?_⟩
    rcases List.mem_append.1 hline with hline | hline
    · exact hpost line hline
    · exact List.mem_singleton.1 hline ▸ h

theorem sectionAfter_iff : sectionAfter false lines = true ↔ EndsInClient lines := by
  induction lines using List.reverseRecOn with
  | nil => simp [sectionAfter, EndsInClient]
  | append_singleton lines raw ih =>
    rw [sectionAfter_append_one]
    cases hh : header? (Text.trimList raw) with
    | none =>
      have hno : ¬ IsHeader (Text.trimList raw) := fun h => by
        obtain ⟨name, hname⟩ := isHeader_iff.1 h
        rw [hh] at hname
        cases hname
      rw [endsInClient_append_other hno]
      exact ih
    | some name =>
      rw [endsInClient_append_header (isHeader_iff.2 ⟨name, hh⟩)]
      exact isClientHeader_iff hh

/-! ## What is found -/

/-- Blank lines and comments are no headers. -/
theorem header?_of_passed (h : line = [] ∨ isComment line = true) : header? line = none := by
  refine header?_eq_none fun ⟨name, hname⟩ => ?_
  subst hname
  rcases h with h | h
  · cases h
  · cases h

theorem clientLines_of_passed (h : Text.trimList raw = [] ∨ isComment (Text.trimList raw) = true)
    (inside : Bool) (rest : List (List Char)) :
    clientLines inside (raw :: rest) = clientLines inside rest := by
  rw [clientLines]
  exact if_pos (by simpa using h)

theorem clientLines_of_header (h : header? (Text.trimList raw) = some name) (inside : Bool)
    (rest : List (List Char)) :
    clientLines inside (raw :: rest) = clientLines (isClientHeader name) rest := by
  have hnot : ¬ (Text.trimList raw = [] ∨ isComment (Text.trimList raw) = true) := fun hpassed => by
    rw [header?_of_passed hpassed] at h
    cases h
  rw [clientLines]
  simp only [h]
  exact if_neg (by simpa using hnot)

theorem clientLines_of_plain (h : IsPlain (Text.trimList raw)) (inside : Bool)
    (rest : List (List Char)) : clientLines inside (raw :: rest) =
      (if inside then [Text.trimList raw] else []) ++ clientLines inside rest := by
  have hnot : ¬ (Text.trimList raw = [] ∨ isComment (Text.trimList raw) = true) := by
    simp [h.not_blank, h.not_comment]
  rw [clientLines]
  simp only [header?_eq_none h.not_header]
  rw [if_neg (by simpa using hnot)]
  cases inside <;> rfl

theorem line_cases (line : List Char) :
    (line = [] ∨ isComment line = true) ∨ (∃ name, header? line = some name) ∨ IsPlain line := by
  by_cases hpassed : line = [] ∨ isComment line = true
  · exact .inl hpassed
  · by_cases hheader : IsHeader line
    · exact .inr (.inl (isHeader_iff.1 hheader))
    · rw [not_or, Bool.not_eq_true] at hpassed
      exact .inr (.inr ⟨hpassed.1, hpassed.2, hheader⟩)

theorem clientLines_append : ∀ (inside : Bool) (xs ys : List (List Char)),
    clientLines inside (xs ++ ys) = clientLines inside xs ++ clientLines (sectionAfter inside xs) ys
  | _, [], _ => rfl
  | inside, raw :: xs, ys => by
    have hsection : sectionAfter inside (raw :: xs) =
        sectionAfter (((header? (Text.trimList raw)).map isClientHeader).getD inside) xs := rfl
    rw [List.cons_append, hsection]
    rcases line_cases (Text.trimList raw) with hpassed | ⟨name, hname⟩ | hplain
    · rw [clientLines_of_passed hpassed, clientLines_of_passed hpassed, header?_of_passed hpassed,
        clientLines_append]
      rfl
    · rw [clientLines_of_header hname, clientLines_of_header hname, hname, clientLines_append]
      rfl
    · rw [clientLines_of_plain hplain, clientLines_of_plain hplain,
        header?_eq_none hplain.not_header, clientLines_append, List.append_assoc]
      rfl

theorem clientLines_append_counted (hplain : IsPlain (Text.trimList raw)) (h : EndsInClient lines) :
    clientLines false (lines ++ [raw]) = clientLines false lines ++ [Text.trimList raw] := by
  rw [clientLines_append, sectionAfter_iff.2 h, clientLines_of_plain hplain]
  rfl

theorem clientLines_append_other (h : ¬ (IsPlain (Text.trimList raw) ∧ EndsInClient lines)) :
    clientLines false (lines ++ [raw]) = clientLines false lines := by
  rw [clientLines_append]
  refine (congrArg _ ?_).trans (List.append_nil _)
  rcases line_cases (Text.trimList raw) with hpassed | ⟨name, hname⟩ | hplain
  · exact clientLines_of_passed hpassed _ []
  · exact clientLines_of_header hname _ []
  · have hinside : sectionAfter false lines = false := by
      rw [← Bool.not_eq_true, sectionAfter_iff]
      exact fun hin => h ⟨hplain, hin⟩
    rw [clientLines_of_plain hplain, hinside]
    rfl

/-! ## Places -/

theorem CountsAt.lt (h : CountsAt lines i line) : i < lines.length := by
  obtain ⟨raw, hraw, -⟩ := Option.map_eq_some_iff.1 h.here
  exact (List.getElem?_eq_some_iff.1 hraw).1

theorem CountsAt.line_eq {other : List Char} (h : CountsAt lines i line)
    (h' : CountsAt lines i other) : line = other := Option.some.inj (h.here.symm.trans h'.here)

/-- Whether a line counts does not depend on what comes later. -/
theorem countsAt_append_one : CountsAt (lines ++ [raw]) i line ↔
    CountsAt lines i line ∨
      i = lines.length ∧ line = Text.trimList raw ∧ IsPlain line ∧ EndsInClient lines := by
  constructor
  · intro h
    rcases Nat.lt_or_ge i lines.length with hi | hi
    · have htake : (lines ++ [raw]).take i = lines.take i := List.take_append_of_le_length hi.le
      exact .inl ⟨by rw [← h.here, List.getElem?_append_left hi], h.plain, htake ▸ h.inside⟩
    · have hlt : i < lines.length + 1 := by simpa using h.lt
      obtain rfl : i = lines.length := by omega
      have hhere : some (Text.trimList raw) = some line := by simpa using h.here
      exact .inr ⟨rfl, (Option.some.inj hhere).symm, h.plain, by simpa using h.inside⟩
  · rintro (h | ⟨rfl, rfl, hplain, hinside⟩)
    · have htake : (lines ++ [raw]).take i = lines.take i := List.take_append_of_le_length h.lt.le
      exact ⟨by rw [← h.here, List.getElem?_append_left h.lt], h.plain, htake ▸ h.inside⟩
    · exact ⟨by simp, hplain, by simpa using hinside⟩

theorem areClientLines (lines : List (List Char)) :
    AreClientLines lines (clientLines false lines) := by
  induction lines using List.reverseRecOn with
  | nil => exact ⟨[], .nil, fun i => by simpa using fun line h => absurd h.lt (by simp), .nil⟩
  | append_singleton lines raw ih =>
    obtain ⟨places, hasc, hmem, hfound⟩ := ih
    have hkept : List.Forall₂ (CountsAt (lines ++ [raw])) places (clientLines false lines) :=
      hfound.imp fun i line h => countsAt_append_one.2 (.inl h)
    by_cases h : IsPlain (Text.trimList raw) ∧ EndsInClient lines
    · have hhere : CountsAt (lines ++ [raw]) lines.length (Text.trimList raw) :=
        countsAt_append_one.2 (.inr ⟨rfl, rfl, h.1, h.2⟩)
      rw [clientLines_append_counted h.1 h.2]
      refine ⟨places ++ [lines.length], ?_, fun i => ?_, List.rel_append hkept (.cons hhere .nil)⟩
      · refine List.pairwise_append.2 ⟨hasc, List.pairwise_singleton _ _, fun i hi j hj => ?_⟩
        obtain ⟨line, hline⟩ := (hmem i).1 hi
        rw [List.mem_singleton.1 hj]
        exact hline.lt
      · rw [List.mem_append, List.mem_singleton, hmem]
        constructor
        · rintro (⟨line, hline⟩ | rfl)
          · exact ⟨line, countsAt_append_one.2 (.inl hline)⟩
          · exact ⟨_, hhere⟩
        · rintro ⟨line, hline⟩
          rcases countsAt_append_one.1 hline with hline | ⟨hi, -⟩
          · exact .inl ⟨line, hline⟩
          · exact .inr hi
    · rw [clientLines_append_other h]
      refine ⟨places, hasc, fun i => ?_, hkept⟩
      rw [hmem]
      constructor
      · rintro ⟨line, hline⟩
        exact ⟨line, countsAt_append_one.2 (.inl hline)⟩
      · rintro ⟨line, hline⟩
        rcases countsAt_append_one.1 hline with hline | ⟨-, rfl, hplain, hinside⟩
        · exact ⟨line, hline⟩
        · exact absurd ⟨hplain, hinside⟩ h

/-- The file says which lines these are. -/
theorem AreClientLines.unique {found found' : List (List Char)} (h : AreClientLines lines found)
    (h' : AreClientLines lines found') : found = found' := by
  obtain ⟨places, hasc, hmem, hfound⟩ := h
  obtain ⟨places', hasc', hmem', hfound'⟩ := h'
  have hplaces : places = places' :=
    hasc.eq_of_mem_iff hasc' fun i => (hmem i).trans (hmem' i).symm
  subst hplaces
  have hline : Relator.RightUnique (CountsAt lines) := fun _ _ _ h h' => h.line_eq h'
  exact List.right_unique_forall₂' hline hfound hfound'

theorem mem_clientLines : line ∈ clientLines false lines ↔ ∃ i, CountsAt lines i line := by
  induction lines using List.reverseRecOn with
  | nil => simpa [clientLines] using fun i h => absurd h.lt (by simp)
  | append_singleton lines raw ih =>
    simp only [countsAt_append_one, exists_or, ← ih]
    by_cases h : IsPlain (Text.trimList raw) ∧ EndsInClient lines
    · rw [clientLines_append_counted h.1 h.2, List.mem_append, List.mem_singleton]
      refine or_congr_right ⟨?_, fun ⟨_, _, hline, _⟩ => hline⟩
      rintro rfl
      exact ⟨_, rfl, rfl, h⟩
    · rw [clientLines_append_other h]
      refine (or_iff_left ?_).symm
      rintro ⟨i, -, rfl, hcounts⟩
      exact h hcounts

end MysqlMetrics.ClientConfig
