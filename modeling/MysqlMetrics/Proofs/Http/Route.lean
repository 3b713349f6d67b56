import MysqlMetrics.Http.Service
import MysqlMetrics.Proofs.Results
import MysqlMetrics.Proofs.Text
import MysqlMetrics.Startup.Setup
/-!
# The path of the metrics and its route

The command line is asked for a path that starts with a slash and is not that of the health; the
router reads the same text as a pattern. `Written` is the grammar of the patterns and `Filled` says
which paths a pattern stands for; the reader (`pieces_eq_ok`) and the matcher (`fits_iff`) keep to
them. So a path that the command line may give breaks the router exactly when a segment of it
carries an old mark or its braces are not written right, and when it does not, a request for that
very text finds the metrics exactly if the text fills its own pattern (`Routed`).
-/
namespace MysqlMetrics.Route

/-- A segment of a path ends here. -/
def SegmentEnd (cs : List Char) : Prop := cs = [] ∨ ∃ after, cs = '/' :: after

theorem SegmentEnd.not_brace {cs after : List Char} (h : SegmentEnd cs) : cs ≠ '\x7d' :: after := by
  rcases h with rfl | ⟨_, rfl⟩ <;> simp

/-! ## The patterns -/

/-- What a name may have after its first character: no slash and no star, and braces that close
only as pairs. -/
inductive NameTail : List Char → Prop
  | nil : NameTail []
  | char {c : Char} {n : List Char} (hc : c ∉ ['/', '*', '\x7d']) :
      NameTail n → NameTail (c :: n)
  | brace {n : List Char} : NameTail n → NameTail ('\x7d' :: '\x7d' :: n)

/-- The characters are the pattern with these pieces, written out. -/
inductive Written : List Piece → List Char → Prop
  | nil : Written [] []
  | char {c : Char} {ps : List Piece} {cs : List Char} (hc : c ∉ ['\x7b', '\x7d']) :
      Written ps cs → Written (.char c :: ps) (c :: cs)
  | brace {c : Char} {ps : List Piece} {cs : List Char} (hc : c ∈ ['\x7b', '\x7d']) :
      Written ps cs → Written (.char c :: ps) (c :: c :: cs)
  | segment {c : Char} {n : List Char} {ps : List Piece} {cs : List Char}
      (hc : c ∉ ['\x7b', '\x7d', '*']) (hn : NameTail n) (hend : SegmentEnd cs) :
      Written ps cs → Written (.segment :: ps) ('\x7b' :: c :: (n ++ '\x7d' :: cs))
  | rest {n : List Char} (hn : NameTail n) (hne : n ≠ []) :
      Written [.rest] ('\x7b' :: '*' :: (n ++ ['\x7d']))

/-! ### Doubled braces -/

theorem unescape_single {c : Char} {cs : List Char}
    (h : c ∈ ['\x7b', '\x7d'] → ∀ after, cs ≠ c :: after) :
    unescape (c :: cs) = (c, false) :: unescape cs :=
  unescape.eq_3 c cs (fun after hc hcs => h (by simp [hc]) after (hc ▸ hcs)) fun after hc hcs =>
    h (by simp [hc]) after (hc ▸ hcs)

theorem unescape_brace {c : Char} (hc : c ∈ ['\x7b', '\x7d']) (cs : List Char) :
    unescape (c :: c :: cs) = (c, true) :: unescape cs := by
  obtain rfl | rfl : c = '\x7b' ∨ c = '\x7d' := by simpa using hc
  all_goals rw [unescape]

/-- The first character stays the first. -/
theorem exists_unescape_cons (c : Char) (cs : List Char) :
    ∃ doubled after, unescape (c :: cs) = (c, doubled) :: after := by
  by_cases h : c ∈ ['\x7b', '\x7d'] ∧ ∃ after, cs = c :: after
  · obtain ⟨hc, after, rfl⟩ := h
    exact ⟨true, _, unescape_brace hc after⟩
  · exact ⟨false, _, unescape_single fun hc after hcs => h ⟨hc, after, hcs⟩⟩

theorem unescape_eq_nil {cs : List Char} : unescape cs = [] ↔ cs = [] := by
  fun_cases unescape cs <;> simp

/-! ### Within a name -/

/-- Whether an opening brace in a name is doubled makes no difference. -/
theorem pieces_named_open (isRest : Bool) (last : Char) (cs : List Char) :
    pieces (.named isRest last) (unescape ('\x7b' :: cs)) =
      pieces (.named isRest '\x7b') (unescape cs) := by
  by_cases hdouble : ∃ after, cs = '\x7b' :: after
  · obtain ⟨after, rfl⟩ := hdouble
    rw [pieces_named_open isRest '\x7b' after, unescape_brace (by simp)]
    simp [pieces]
  · rw [unescape_single fun _ => not_exists.1 hdouble]
    simp [pieces]
termination_by cs.length

theorem pieces_named_char {c : Char} (hc : c ∉ ['/', '*', '\x7d']) (isRest : Bool) (last : Char)
    (cs : List Char) :
    pieces (.named isRest last) (unescape (c :: cs)) = pieces (.named isRest c) (unescape cs) := by
  by_cases hopen : c = '\x7b'
  · rw [hopen, pieces_named_open]
  · rw [unescape_single fun hbrace => by simp_all]
    simp_all [pieces]

/-- What is left of a name is read up to the brace that closes it. -/
theorem pieces_named_tail {n cs : List Char} (hn : NameTail n) (hend : SegmentEnd cs)
    (isRest : Bool) (last : Char) (hlast : n = [] → last ≠ '*') :
    pieces (.named isRest last) (unescape (n ++ '\x7d' :: cs)) =
      if isRest then
        if cs.isEmpty then .ok [.rest]
        else (pieces .closed (unescape cs)).bind fun _ => .error .rest
      else (pieces .closed (unescape cs)).map (.segment :: ·) := by
  induction hn generalizing last with
  | nil =>
    rw [List.nil_append, unescape_single fun _ _ => hend.not_brace]
    rcases hend with rfl | ⟨after, rfl⟩
    · simp [pieces, hlast]
    · simp [pieces, hlast, unescape]
  | char hc hn ih =>
    rw [List.cons_append, pieces_named_char hc]
    exact ih _ fun _ hstar => hc (by simp [hstar])
  | brace hn ih =>
    rw [List.cons_append, List.cons_append, unescape_brace (by simp)]
    simpa [pieces] using ih '\x7d' fun _ => by simp

/-- A name that is read is one, and what follows it is read too. -/
theorem exists_name {isRest : Bool} (last : Char) {cs : List Char} {ps : List Piece}
    (h : pieces (.named isRest last) (unescape cs) = .ok ps) :
    ∃ n after, cs = n ++ '\x7d' :: after ∧ NameTail n ∧ (n = [] → last ≠ '*') ∧
      (if isRest then after = [] ∧ ps = [.rest]
        else ∃ ps', ps = .segment :: ps' ∧ pieces .closed (unescape after) = .ok ps') := by
  fun_induction unescape cs generalizing last with
  | case1 cs ih =>
    obtain ⟨n, after, rfl, hn, -, hafter⟩ := ih '\x7b' (by simpa [pieces] using h)
    exact ⟨_, after, rfl, .char (by simp) (.char (by simp) hn), by simp, hafter⟩
  | case2 cs ih =>
    obtain ⟨n, after, rfl, hn, -, hafter⟩ := ih '\x7d' (by simpa [pieces] using h)
    exact ⟨_, after, rfl, .brace hn, by simp, hafter⟩
  | case3 c cs _ _ ih =>
    by_cases hclose : c = '\x7d'
    · subst hclose
      by_cases hlast : last = '*'
      · simp [pieces, hlast] at h
      · refine ⟨[], cs, rfl, .nil, fun _ => hlast, ?_⟩
        cases isRest with
        | false =>
          have hclosed : (pieces .closed (unescape cs)).map (.segment :: ·) = .ok ps := by
            simpa [pieces, hlast] using h
          obtain ⟨ps', hps', rfl⟩ := map_eq_ok.1 hclosed
          exact ⟨ps', rfl, hps'⟩
        | true =>
          rw [pieces, if_pos (by simp), if_neg hlast, if_pos rfl] at h
          split at h
          · rename_i hnil
            exact ⟨unescape_eq_nil.1 (List.isEmpty_iff.1 hnil), (Except.ok.inj h).symm⟩
          · cases hclosed : pieces .closed (unescape cs) <;> simp [hclosed, Except.bind] at h
    · by_cases hother : c = '*' ∨ c = '/'
      · simp [pieces, hclose, hother] at h
      · obtain ⟨n, after, rfl, hn, -, hafter⟩ :=
          ih c (by simpa [pieces, hclose, hother] using h)
        exact ⟨c :: n, after, rfl, .char (by simp_all) hn, by simp, hafter⟩
  | case4 => simp [pieces] at h

/-- What is read after a single opening brace is the name of a segment or of a rest. -/
theorem exists_opened {cs : List Char} {ps : List Piece} (hsingle : ∀ after, cs ≠ '\x7b' :: after)
    (h : pieces .opened (unescape cs) = .ok ps) :
    (∃ n, cs = '*' :: (n ++ ['\x7d']) ∧ NameTail n ∧ n ≠ [] ∧ ps = [.rest]) ∨
      ∃ c n after ps', cs = c :: (n ++ '\x7d' :: after) ∧ c ∉ ['\x7b', '\x7d', '*'] ∧
        NameTail n ∧ ps = .segment :: ps' ∧ pieces .closed (unescape after) = .ok ps' := by
  cases cs with
  | nil => simp [pieces] at h
  | cons c cs =>
    have hopen : c ≠ '\x7b' := fun hc => hsingle cs (by rw [hc])
    have hclose : c ≠ '\x7d' := by
      rintro rfl
      obtain ⟨doubled, after, hcs⟩ := exists_unescape_cons '\x7d' cs
      simp [hcs, pieces] at h
    have hchar : unescape (c :: cs) = (c, false) :: unescape cs :=
      unescape_single (by simp [hopen, hclose])
    have hname : pieces (.named (c = '*') c) (unescape cs) = .ok ps := by
      simpa [hchar, pieces, hclose] using h
    obtain ⟨n, after, rfl, hn, hlast, hafter⟩ := exists_name c hname
    by_cases hstar : c = '*'
    · subst hstar
      obtain ⟨rfl, rfl⟩ : after = [] ∧ ps = [.rest] := by simpa using hafter
      exact .inl ⟨n, rfl, hn, fun hnil => hlast hnil rfl, rfl⟩
    · obtain ⟨ps', rfl, hps'⟩ : ∃ ps', ps = .segment :: ps' ∧
          pieces .closed (unescape after) = .ok ps' := by simpa [hstar] using hafter
      exact .inr ⟨c, n, after, ps', rfl, by simp [hopen, hclose, hstar], hn, rfl, hps'⟩

/-! ### Between the names -/

theorem pieces_closed {cs : List Char} {ps : List Piece} :
    pieces .closed (unescape cs) = .ok ps ↔
      SegmentEnd cs ∧ pieces .outside (unescape cs) = .ok ps := by
  cases cs with
  | nil => simp [SegmentEnd]
  | cons c cs =>
    by_cases hc : c = '/'
    · subst hc
      rw [unescape_single (by simp)]
      simp [pieces, SegmentEnd]
    · obtain ⟨doubled, after, hcs⟩ := exists_unescape_cons c cs
      simp [hcs, pieces, SegmentEnd, hc]

theorem Written.pieces {ps : List Piece} {cs : List Char} (h : Written ps cs) :
    pieces .outside (unescape cs) = .ok ps := by
  induction h with
  | nil => rfl
  | char hc _ ih =>
    rw [unescape_single (absurd · hc)]
    simp_all [Route.pieces, Except.map]
  | brace hc _ ih =>
    rw [unescape_brace hc]
    simp [Route.pieces, Except.map, ih]
  | @segment c n ps cs hc hn hend _ ih =>
    have hname : c ≠ '\x7b' ∧ c ≠ '\x7d' ∧ c ≠ '*' := by simpa using hc
    have htail := pieces_named_tail hn hend false c fun _ => hname.2.2
    rw [unescape_single (by simp [hname.1]), unescape_single (by simp [hname])]
    simp [Route.pieces, hname, htail, pieces_closed.2 ⟨hend, ih⟩, Except.map]
  | @rest n hn hne =>
    have htail := pieces_named_tail hn (.inl rfl) true '*' fun hnil => absurd hnil hne
    rw [unescape_single (by simp), unescape_single (by simp)]
    simp [Route.pieces, htail]

theorem written_of_pieces {ps : List Piece} {cs : List Char}
    (h : pieces .outside (unescape cs) = .ok ps) : Written ps cs := by
  match cs with
  | [] =>
    obtain rfl : [] = ps := Except.ok.inj h
    exact .nil
  | c :: cs =>
    by_cases hdouble : c ∈ ['\x7b', '\x7d'] ∧ ∃ after, cs = c :: after
    · obtain ⟨hc, after, rfl⟩ := hdouble
      have hmap : (pieces .outside (unescape after)).map (.char c :: ·) = .ok ps := by
        simpa [unescape_brace hc, pieces] using h
      obtain ⟨ps', hps', rfl⟩ := map_eq_ok.1 hmap
      exact .brace hc (written_of_pieces hps')
    · rw [unescape_single fun hc after hcs => hdouble ⟨hc, after, hcs⟩] at h
      by_cases hopen : c = '\x7b'
      · subst hopen
        have hopened : pieces .opened (unescape cs) = .ok ps := by simpa [pieces] using h
        rcases exists_opened (fun after hcs => hdouble ⟨by simp, after, hcs⟩) hopened with
          ⟨n, rfl, hn, hne, rfl⟩ | ⟨d, n, after, ps', rfl, hd, hn, rfl, hps'⟩
        · exact .rest hn hne
        · obtain ⟨hend, hps'⟩ := pieces_closed.1 hps'
          exact .segment hd hn hend (written_of_pieces hps')
      · by_cases hclose : c = '\x7d'
        · simp [pieces, hclose] at h
        · have hmap : (pieces .outside (unescape cs)).map (.char c :: ·) = .ok ps := by
            simpa [pieces, hopen, hclose] using h
          obtain ⟨ps', hps', rfl⟩ := map_eq_ok.1 hmap
          exact .char (by simp [hopen, hclose]) (written_of_pieces hps')
  termination_by cs.length
  decreasing_by all_goals simp_all <;> omega

/-- The patterns that can be read are those that are written right. -/
theorem pieces_eq_ok {ps : List Piece} {cs : List Char} :
    pieces .outside (unescape cs) = .ok ps ↔ Written ps cs :=
  ⟨written_of_pieces, Written.pieces⟩

theorem Written.unique {ps ps' : List Piece} {cs : List Char} (h : Written ps cs)
    (h' : Written ps' cs) : ps' = ps :=
  Except.ok.inj (h'.pieces.symm.trans h.pieces)

/-! ## The paths that a pattern stands for -/

/-- The characters are a path that fills the pieces: a segment with some text up to the next slash,
a rest with some text. -/
inductive Filled : List Piece → List Char → Prop
  | nil : Filled [] []
  | char {c : Char} {ps : List Piece} {cs : List Char} :
      Filled ps cs → Filled (.char c :: ps) (c :: cs)
  | segment {text : List Char} {ps : List Piece} {cs : List Char} (hne : text ≠ [])
      (hslash : '/' ∉ text) (hend : SegmentEnd cs) :
      Filled ps cs → Filled (.segment :: ps) (text ++ cs)
  | rest {cs : List Char} (hne : cs ≠ []) : Filled [.rest] cs

/-- The end of a segment is where a path is cut. -/
theorem SegmentEnd.cut {text cs : List Char} (hslash : '/' ∉ text) (hend : SegmentEnd cs) :
    (text ++ cs).takeWhile (· != '/') = text ∧ (text ++ cs).dropWhile (· != '/') = cs := by
  have htext : ∀ c ∈ text, (c != '/') = true := fun c hc => by
    simpa using fun h : c = '/' => hslash (h ▸ hc)
  rw [List.takeWhile_append_of_pos htext, List.dropWhile_append_of_pos htext]
  rcases hend with rfl | ⟨after, rfl⟩ <;> simp

theorem segmentEnd_dropWhile (cs : List Char) : SegmentEnd (cs.dropWhile (· != '/')) := by
  induction cs with
  | nil => exact .inl rfl
  | cons c cs ih =>
    by_cases hc : c = '/'
    · exact .inr ⟨cs, by simp [hc]⟩
    · simpa [hc] using ih

theorem fits_iff {ps : List Piece} {cs : List Char} : fits ps cs = true ↔ Filled ps cs := by
  constructor
  · intro h
    induction ps generalizing cs with
    | nil =>
      obtain rfl : cs = [] := by simpa [fits] using h
      exact .nil
    | cons p ps ih =>
      cases p with
      | char p =>
        cases cs with
        | nil => simp [fits] at h
        | cons c cs =>
          obtain ⟨rfl, hfits⟩ : p = c ∧ fits ps cs = true := by simpa [fits] using h
          exact .char (ih hfits)
      | segment =>
        obtain ⟨hne, hfits⟩ : cs.takeWhile (· != '/') ≠ [] ∧
            fits ps (cs.dropWhile (· != '/')) = true := by simpa [fits] using h
        have hslash : '/' ∉ cs.takeWhile (· != '/') := fun hmem => by
          simpa using List.mem_takeWhile_imp hmem
        rw [← List.takeWhile_append_dropWhile (p := (· != '/')) (l := cs)]
        exact .segment hne hslash (segmentEnd_dropWhile cs) (ih hfits)
      | rest =>
        obtain ⟨hne, rfl⟩ : cs ≠ [] ∧ ps = [] := by simpa [fits] using h
        exact .rest hne
  · intro h
    induction h with
    | nil => rfl
    | char _ ih => simp [fits, ih]
    | segment hne hslash hend _ ih =>
      obtain ⟨htake, hdrop⟩ := hend.cut hslash
      rw [fits, htake, hdrop, ih]
      simpa using hne
    | rest hne => simpa [fits] using hne

/-! ## The marks of an older form -/

/-- A segment of the path starts with a mark of the older form. -/
def HasOldMark (cs : List Char) : Prop :=
  ∃ before c after, cs = before ++ '/' :: c :: after ∧ (c = ':' ∨ c = '*')

theorem startsWith_old {s : String} : (s.startsWith ":" || s.startsWith "*") = true ↔
    ∃ c cs, s.toList = c :: cs ∧ (c = ':' ∨ c = '*') := by
  rw [Bool.or_eq_true, Text.startsWith_singleton (c := ':') rfl,
    Text.startsWith_singleton (c := '*') rfl]
  constructor
  · rintro (⟨cs, hs⟩ | ⟨cs, hs⟩)
    · exact ⟨':', cs, hs, .inl rfl⟩
    · exact ⟨'*', cs, hs, .inr rfl⟩
  · rintro ⟨c, cs, hs, rfl | rfl⟩
    · exact .inl ⟨cs, hs⟩
    · exact .inr ⟨cs, hs⟩

/-- The segments of a path that starts with a slash are what follows its slashes. -/
theorem exists_old_segment {path : String} {cs : List Char} (hpath : path.toList = '/' :: cs) :
    (∃ s ∈ Text.split '/' path, (s.startsWith ":" || s.startsWith "*") = true) ↔
      HasOldMark path.toList := by
  constructor
  · rintro ⟨s, hs, hmark⟩
    obtain ⟨piece, hpiece, rfl⟩ := List.mem_map.1 hs
    obtain ⟨c, tail, htail, hc⟩ := startsWith_old.1 hmark
    rw [String.toList_ofList] at htail
    obtain ⟨first, others, hcs⟩ := Text.exists_splitList (· == '/') cs
    have hsplit : Text.splitList (· == '/') path.toList = [] :: first :: others := by
      simp [hpath, Text.splitList, hcs]
    rw [hsplit, htail] at hpiece
    obtain ⟨before, d, after, hd, heq⟩ := (Text.splitList_eq_cons hsplit).2 _ <|
      (List.mem_cons.1 hpiece).resolve_left (by simp)
    exact ⟨before, c, tail ++ after, by simpa [beq_iff_eq.1 hd] using heq, hc⟩
  · rintro ⟨before, c, after, heq, hc⟩
    obtain ⟨piece, pieces, hafter⟩ := Text.exists_splitList (· == '/') after
    have hslash : (c == '/') = false := by rcases hc with rfl | rfl <;> rfl
    refine ⟨.ofList (c :: piece), List.mem_map.2 ⟨c :: piece, ?_, rfl⟩,
      startsWith_old.2 ⟨c, piece, by simp, hc⟩⟩
    rw [heq, Text.splitList_append (by simp)]
    simp [Text.splitList, hafter, hslash]

/-- A path can be parsed if it carries no old mark and is a pattern written right. -/
theorem parse_eq_ok {path : String} {cs : List Char} (hpath : path.toList = '/' :: cs)
    {ps : List Piece} :
    parse path = .ok ps ↔ ¬ HasOldMark path.toList ∧ Written ps path.toList := by
  have hne : path.isEmpty = false := by
    rw [← Bool.not_eq_true, String.isEmpty_iff]
    rintro rfl
    simp at hpath
  have hslash : path.startsWith "/" = true := (Text.startsWith_singleton rfl).2 ⟨cs, hpath⟩
  rw [← exists_old_segment hpath, ← pieces_eq_ok, parse, if_neg (by simp [hne]),
    if_neg (by simp [hslash])]
  cases hfind : (Text.split '/' path).find? fun s => s.startsWith ":" || s.startsWith "*" with
  | some s =>
    have hmark := List.find?_some hfind
    have hold : ∃ s ∈ Text.split '/' path, (s.startsWith ":" || s.startsWith "*") = true :=
      ⟨s, List.mem_of_find?_eq_some hfind, hmark⟩
    simp only [hold, reduceCtorEq, not_true_eq_false, false_and]
  | none =>
    have hnone : ¬ ∃ s ∈ Text.split '/' path, (s.startsWith ":" || s.startsWith "*") = true := by
      rintro ⟨s, hs, hmark⟩
      exact List.find?_eq_none.1 hfind s hs hmark
    cases pieces .outside (unescape path.toList) with
    | ok ps' => simp only [hnone, not_false_eq_true, true_and, Except.ok.injEq]
    | error fault => cases fault <;> simp only [reduceCtorEq, and_false]

/-! ## A path that is its own pattern -/

theorem NameTail.not_slash {n : List Char} (h : NameTail n) : '/' ∉ n := by
  induction h with
  | nil => simp
  | char hc _ ih => simp_all [eq_comm]
  | brace _ ih => simp_all

/-- A pattern in which no brace is doubled and no name starts with a slash stands for its own
text. -/
theorem Written.filled_self {ps : List Piece} {cs : List Char} (h : Written ps cs)
    (hbraces : ∀ before c after, cs = before ++ c :: c :: after → c ∉ ['\x7b', '\x7d'])
    (hslash : ∀ before after, cs ≠ before ++ '\x7b' :: '/' :: after) : Filled ps cs := by
  induction h with
  | nil => exact .nil
  | @char c ps cs hc _ ih =>
    exact .char (ih (fun before d after h => hbraces (c :: before) d after (by simp [h]))
      fun before after h => hslash (c :: before) after (by simp [h]))
  | @brace c ps cs hc _ ih => exact absurd hc (hbraces [] c cs rfl)
  | @segment c n ps cs hc hn hend _ ih =>
    have hname : '\x7b' :: c :: (n ++ '\x7d' :: cs) = ('\x7b' :: c :: (n ++ ['\x7d'])) ++ cs := by
      simp
    rw [hname] at hbraces hslash ⊢
    refine .segment (by simp) ?_ hend (ih ?_ ?_)
    · have hc' : '/' ≠ c := fun h => hslash [] _ (by rw [h]; rfl)
      simp [hc', hn.not_slash]
    · exact fun before d after h => hbraces _ d after (by rw [h, ← List.append_assoc])
    · exact fun before after h => hslash _ after (by rw [h, ← List.append_assoc])
  | rest => exact .rest (by simp)

/-- Without braces every text is a pattern. -/
theorem exists_written {cs : List Char} (h : '\x7b' ∉ cs ∧ '\x7d' ∉ cs) : ∃ ps, Written ps cs := by
  induction cs with
  | nil => exact ⟨[], .nil⟩
  | cons c cs ih =>
    obtain ⟨ps, hps⟩ := ih (by simp_all)
    exact ⟨.char c :: ps, .char (by simp_all [eq_comm]) hps⟩

end Route

/-! ## The router -/

namespace Startup

theorem isTelemetryPath_iff {path : String} :
    isTelemetryPath path = true ↔ (∃ cs, path.toList = '/' :: cs) ∧ path ≠ "/health" := by
  rw [isTelemetryPath, Bool.and_eq_true, Text.startsWith_singleton (c := '/') rfl, bne_iff_ne]

/-- A program that is set up has a path that the command line may give. -/
theorem isTelemetryPath_of_setup {files : Files} {m : CommandLine.Matches} {r r' : Registry}
    {set : Setup} (h : setup files m r = (.ok set, r')) :
    isTelemetryPath set.options.telemetryPath = true := by
  unfold setup at h
  split at h
  · cases h
  · rename_i options web hsettings
    have hpath : isTelemetryPath options.telemetryPath = true := by
      obtain ⟨options', -, hrest⟩ := bind_eq_ok.1 hsettings
      obtain ⟨web', -, hchecked⟩ := bind_eq_ok.1 hrest
      split at hchecked
      · rename_i hpath
        cases hchecked
        exact hpath
      · cases hchecked
    split at h
    · cases h
    · cases h
      exact hpath

end Startup

namespace Router

open Startup

variable {path : String}

/-- The routes when the path of the metrics has these pieces. -/
def withMetrics (path : String) (ps : List Piece) : Router where
  fixed := ("/health", .health) :: if path = "/" then [] else [("/", .landing)]
  metrics := ps

theorem build_eq_ok (hpath : isTelemetryPath path = true) {router : Router} :
    build path = .ok router ↔ ∃ ps, Route.parse path = .ok ps ∧ router = withMetrics path ps := by
  have hhealth := (isTelemetryPath_iff.1 hpath).2
  unfold build withMetrics
  cases Route.parse path with
  | error e => simp
  | ok ps =>
    by_cases hroot : path = "/"
    · simp [hroot, eq_comm]
    · simp [hroot, hhealth, eq_comm]

theorem route_withMetrics (hpath : isTelemetryPath path = true) (ps : List Piece) :
    (withMetrics path ps).route "GET" path = .handler .metrics ↔
      Route.fits ps path.toList = true := by
  have hhealth := (isTelemetryPath_iff.1 hpath).2
  have hfixed : (withMetrics path ps).fixed.lookup path = none := by
    by_cases hroot : path = "/"
    · simp [withMetrics, hroot]
    · simp [withMetrics, hroot, hhealth]
  have hmetrics : (withMetrics path ps).metrics = ps := rfl
  by_cases hfits : Route.fits ps path.toList = true
  · refine iff_of_true ?_ hfits
    simp only [route, handler?, hfixed, hmetrics, hfits, if_true]
    rfl
  · exact iff_of_false (by simp [route, handler?, hfixed, hmetrics, hfits]) hfits

theorem exists_build_iff (hpath : isTelemetryPath path = true) :
    (∃ router, build path = .ok router) ↔
      ¬ Route.HasOldMark path.toList ∧ ∃ ps, Route.Written ps path.toList := by
  obtain ⟨⟨cs, hcs⟩, -⟩ := isTelemetryPath_iff.1 hpath
  simp only [build_eq_ok hpath, Route.parse_eq_ok hcs]
  exact ⟨fun ⟨_, ps, ⟨hold, hps⟩, _⟩ => ⟨hold, ps, hps⟩, fun ⟨hold, ps, hps⟩ =>
    ⟨_, ps, ⟨hold, hps⟩, rfl⟩⟩

theorem route_health {router : Router} (hbuild : build path = .ok router)
    (hpath : isTelemetryPath path = true) : router.route "GET" "/health" = .handler .health := by
  obtain ⟨ps, -, rfl⟩ := (build_eq_ok hpath).1 hbuild
  rfl

theorem route_landing {router : Router} (hbuild : build path = .ok router)
    (hpath : isTelemetryPath path = true) (hroot : path ≠ "/") :
    router.route "GET" "/" = .handler .landing := by
  obtain ⟨ps, -, rfl⟩ := (build_eq_ok hpath).1 hbuild
  rw [withMetrics, if_neg hroot]
  rfl

theorem route_metrics_iff {router : Router} (hbuild : build path = .ok router)
    (hpath : isTelemetryPath path = true) : router.route "GET" path = .handler .metrics ↔
      ∃ ps, Route.Written ps path.toList ∧ Route.Filled ps path.toList := by
  obtain ⟨⟨cs, hcs⟩, -⟩ := isTelemetryPath_iff.1 hpath
  obtain ⟨ps, hparse, rfl⟩ := (build_eq_ok hpath).1 hbuild
  have hwritten := ((Route.parse_eq_ok hcs).1 hparse).2
  rw [route_withMetrics hpath, Route.fits_iff]
  refine ⟨fun hfilled => ⟨ps, hwritten, hfilled⟩, ?_⟩
  rintro ⟨ps', hwritten', hfilled⟩
  exact hwritten.unique hwritten' ▸ hfilled

end Router

/-- What becomes of a path that the command line gives the metrics. -/
structure Routed (path : String) : Prop where
  /-- The router can be built exactly if no segment of the path carries an old mark and its braces
  are written right. -/
  built : (∃ router, Router.build path = .ok router) ↔
    ¬ Route.HasOldMark path.toList ∧ ∃ ps, Route.Written ps path.toList
  health : ∀ router, Router.build path = .ok router →
    router.route "GET" "/health" = .handler .health
  landing : ∀ router, Router.build path = .ok router → path ≠ "/" →
    router.route "GET" "/" = .handler .landing
  /-- A request for the very path finds the metrics exactly if the path fills the pattern that it
  is. -/
  metrics : ∀ router, Router.build path = .ok router →
    (router.route "GET" path = .handler .metrics ↔
      ∃ ps, Route.Written ps path.toList ∧ Route.Filled ps path.toList)
  /-- It does when no brace is doubled and no name starts with a slash. -/
  single : ∀ router, Router.build path = .ok router →
    (∀ before c after, path.toList = before ++ c :: c :: after → c ∉ ['\x7b', '\x7d']) →
    (∀ before after, path.toList ≠ before ++ '\x7b' :: '/' :: after) →
    router.route "GET" path = .handler .metrics
  /-- Without braces and old marks there is nothing that could go wrong. -/
  plain : ¬ Route.HasOldMark path.toList → '\x7b' ∉ path.toList ∧ '\x7d' ∉ path.toList →
    ∃ router, Router.build path = .ok router ∧ router.route "GET" path = .handler .metrics

theorem Router.route_single {path : String} {router : Router} (hbuild : build path = .ok router)
    (hpath : Startup.isTelemetryPath path = true)
    (hbraces : ∀ before c after, path.toList = before ++ c :: c :: after → c ∉ ['\x7b', '\x7d'])
    (hslash : ∀ before after, path.toList ≠ before ++ '\x7b' :: '/' :: after) :
    router.route "GET" path = .handler .metrics := by
  obtain ⟨-, ps, hps⟩ := (exists_build_iff hpath).1 ⟨router, hbuild⟩
  exact (route_metrics_iff hbuild hpath).2 ⟨ps, hps, hps.filled_self hbraces hslash⟩

/-- **The path of the metrics.** Whatever path a program is set up with, this becomes of it. -/
theorem Startup.routed_of_setup {files : Files} {m : CommandLine.Matches} {r r' : Registry}
    {set : Setup} (hsetup : setup files m r = (.ok set, r')) :
    Routed set.options.telemetryPath := by
  have hpath := isTelemetryPath_of_setup hsetup
  refine {
    built := Router.exists_build_iff hpath
    health := fun router hbuild => Router.route_health hbuild hpath
    landing := fun router hbuild => Router.route_landing hbuild hpath
    metrics := fun router hbuild => Router.route_metrics_iff hbuild hpath
    single := fun router hbuild => Router.route_single hbuild hpath
    plain := fun hold hnone => ?_ }
  obtain ⟨router, hbuild⟩ := (Router.exists_build_iff hpath).2 ⟨hold, Route.exists_written hnone⟩
  refine ⟨router, hbuild, Router.route_single hbuild hpath (fun before c after heq hc => ?_)
    fun before after heq => ?_⟩
  · have hmem : c ∈ set.options.telemetryPath.toList := heq ▸ by simp
    rcases List.mem_pair.1 hc with rfl | rfl
    · exact hnone.1 hmem
    · exact hnone.2 hmem
  · exact hnone.1 (heq ▸ by simp)

theorem Startup.routed_mysql : ∃ (m : CommandLine.Matches) (set : Setup) (r' : Registry),
    setup {} m { state := .flagsPending } = (.ok set, r') ∧
      set.options.telemetryPath = "/mysql" ∧
      ∃ router, Router.build "/mysql" = .ok router ∧
        router.route "GET" "/mysql" = .handler .metrics := by
  let line : CommandLine.Matches := [("web.telemetry-path", .text "/mysql")]
  let options : Options := { telemetryPath := "/mysql" }
  have hpath : isTelemetryPath "/mysql" = true := by decide +kernel
  have hsettings : settings {} line = .ok (options, none) := if_pos hpath
  have hsetup : setup {} line { state := .flagsPending } =
      (.ok ⟨options, ⟨[], []⟩, none, none, .text, 0⟩, ⟨.ready, []⟩) := by
    rw [setup, hsettings]
    rfl
  have hparse : Route.parse "/mysql" = .ok ("/mysql".toList.map .char) := by decide +kernel
  have hold : ¬ Route.HasOldMark "/mysql".toList := ((Route.parse_eq_ok rfl).1 hparse).1
  exact ⟨line, _, _, hsetup, rfl, (routed_of_setup hsetup).plain hold (by decide)⟩

/-- The command line may give a path that no router can have, and one that is not found where it
says. -/
example : (Startup.isTelemetryPath "/:m" = true ∧ Router.build "/:m" = .error .oldCapture) ∧
    Startup.isTelemetryPath "/\x7b\x7bm\x7d\x7d" = true ∧
      (Router.build "/\x7b\x7bm\x7d\x7d").map (·.route "GET" "/\x7b\x7bm\x7d\x7d") =
        .ok .nowhere := by
  decide +kernel

end MysqlMetrics
