import Mathlib.Data.List.TakeWhile
import MysqlMetrics.Text.Blank
import MysqlMetrics.Text.Split
import MysqlMetrics.Text.Utf8
/-!
# Text taken apart

What cutting, trimming and decoding give is told by what the text was made of: a text after a start
(`after?_eq_some`), a text in a text (`occursIn_iff`), the two sides of a separator (`cut_eq_some`,
`split_append`) and what stands between separators (`splitList_eq_cons`), a text between blanks
(`trim_between`, `exists_between`), and the text of bytes (`Utf8.decode_eq_some`).
-/
namespace MysqlMetrics

namespace Utf8

/-- Bytes are decoded as a text if they encode it. -/
theorem decode_eq_some {bs : Bytes} {s : String} : decode bs = some s ↔ bs = encode s := by
  have hencode : ∀ cs : List Char, cs.utf8Encode.data.toList = cs.flatMap String.utf8EncodeChar :=
    fun _ => List.toList_data_toByteArray
  unfold decode encode
  constructor
  · intro h
    obtain ⟨cs, hcs, rfl⟩ := Option.map_eq_some_iff.1 h
    have hsome : bs.toByteArray.utf8Decode?.isSome = true := by rw [hcs]; rfl
    have hget := ByteArray.utf8Encode_get_utf8Decode? (b := bs.toByteArray) (h := hsome)
    simp only [hcs, Option.get_some] at hget
    rw [String.toList_ofList, ← hencode, hget, List.toList_data_toByteArray]
  · rintro rfl
    have := List.utf8Decode?_utf8Encode (l := s.toList)
    rw [List.utf8Encode] at this
    simp [this]

theorem toNat_ofNat {n : Nat} (h : n < 128) : (Char.ofNat n).toNat = n := by
  have hv : n.isValidChar := .inl (by omega)
  have hchar : Char.ofNat n = Char.ofNatAux n hv := dif_pos hv
  rw [hchar]
  rfl

/-- A character of ASCII is one byte. -/
theorem encodeChar_ascii {c : Char} (h : c.toNat < 128) :
    String.utf8EncodeChar c = [UInt8.ofNat c.toNat] := by
  have hbyte : c.val.toUInt8 = UInt8.ofNat c.toNat :=
    UInt8.toNat_inj.1 (by rw [UInt32.toNat_toUInt8, UInt8.toNat_ofNat']; rfl)
  rw [← hbyte]
  refine String.utf8EncodeChar_eq_singleton (Char.utf8Size_eq_one_iff.2 ?_)
  have : c.val.toNat < 128 := h
  exact UInt32.le_iff_toNat_le.2 (by simp; omega)

theorem encode_ascii {s : String} (h : ∀ c ∈ s.toList, c.toNat < 128) :
    encode s = s.toList.map fun c => UInt8.ofNat c.toNat := by
  unfold encode
  generalize s.toList = cs at h
  induction cs with
  | nil => rfl
  | cons c cs ih =>
    rw [List.flatMap_cons, List.map_cons, encodeChar_ascii (h c List.mem_cons_self),
      ih fun x hx => h x (List.mem_cons_of_mem _ hx)]
    rfl

end Utf8

namespace Text

/-! ## Starts and separators -/

theorem afterList_eq_some : ∀ {start cs rest : List Char},
    afterList start cs = some rest ↔ cs = start ++ rest
  | [], cs, rest => by simp [afterList]
  | p :: ps, [], rest => by simp [afterList]
  | p :: ps, c :: cs, rest => by
    unfold afterList
    have ih := @afterList_eq_some ps cs rest
    by_cases hc : p = c
    · simp [hc, ih]
    · simp [hc, show ¬ c = p from fun h => hc h.symm]

theorem after?_eq_some {start s rest : String} :
    after? start s = some rest ↔ s = start ++ rest := by
  unfold after?
  simp only [Option.map_eq_some_iff, afterList_eq_some]
  constructor
  · rintro ⟨cs, hs, rfl⟩
    exact String.toList_inj.1 (by simp [hs])
  · rintro rfl
    exact ⟨rest.toList, by simp⟩

theorem isSome_afterList {start cs : List Char} :
    (afterList start cs).isSome = true ↔ start <+: cs := by
  rw [Option.isSome_iff_exists]
  simp only [afterList_eq_some]
  exact exists_congr fun rest => eq_comm

theorem occursIn_iff {needle : List Char} : ∀ {cs : List Char},
    occursIn needle cs = true ↔ needle <:+: cs
  | [] => by simp [occursIn]
  | c :: cs => by
    rw [occursIn, Bool.or_eq_true, isSome_afterList, occursIn_iff, List.infix_cons_iff]

theorem startsWith_singleton {start s : String} {c : Char} (h : start.toList = [c]) :
    s.startsWith start = true ↔ ∃ cs, s.toList = c :: cs := by
  rw [String.startsWith_string_iff, h]
  cases s.toList <;> simp [List.cons_prefix_cons, eq_comm]

theorem cutList_eq_some {sep : Char} : ∀ {cs before after : List Char},
    cutList sep cs = some (before, after) ↔ cs = before ++ sep :: after ∧ sep ∉ before
  | [], before, after => by simp [cutList]
  | c :: cs, before, after => by
    unfold cutList
    by_cases hc : c = sep
    · subst hc
      cases before with
      | nil => simp
      | cons b before => simp +contextual
    · cases before with
      | nil => simp [hc]
      | cons b before =>
        simp only [hc, if_false, Option.map_eq_some_iff, Prod.exists, cutList_eq_some,
          Prod.mk.injEq, List.cons.injEq, List.cons_append, List.mem_cons, not_or]
        constructor
        · rintro ⟨b', a', ⟨rfl, hn⟩, ⟨rfl, rfl⟩, rfl⟩
          exact ⟨⟨rfl, rfl⟩, fun h => hc h.symm, hn⟩
        · rintro ⟨⟨rfl, rfl⟩, -, hn⟩
          exact ⟨before, after, ⟨rfl, hn⟩, ⟨rfl, rfl⟩, rfl⟩

theorem cut_eq_some {sep : Char} {s before after : String} : cut sep s = some (before, after) ↔
    s = before ++ String.singleton sep ++ after ∧ sep ∉ before.toList := by
  unfold cut
  simp only [Option.map_eq_some_iff, Prod.exists, cutList_eq_some, Prod.mk.injEq]
  constructor
  · rintro ⟨b, a, ⟨hs, hn⟩, rfl, rfl⟩
    exact ⟨String.toList_inj.1 (by simp [hs]), by simpa using hn⟩
  · rintro ⟨rfl, hn⟩
    exact ⟨before.toList, after.toList, ⟨by simp, hn⟩, by simp⟩

theorem exists_splitList (p : Char → Bool) : ∀ cs : List Char,
    ∃ piece pieces, splitList p cs = piece :: pieces
  | [] => ⟨[], [], rfl⟩
  | c :: cs => by
    obtain ⟨piece, pieces, h⟩ := exists_splitList p cs
    by_cases hc : p c = true <;> simp [splitList, h, hc]

/-- A separator ends a piece, whatever stands before and after it. -/
theorem splitList_append {p : Char → Bool} {c : Char} (hc : p c = true) (after : List Char) :
    ∀ before : List Char,
      splitList p (before ++ c :: after) = splitList p before ++ splitList p after
  | [] => by
    obtain ⟨piece, pieces, h⟩ := exists_splitList p after
    simp [splitList, h, hc]
  | b :: before => by
    have ih := splitList_append hc after before
    obtain ⟨piece, pieces, h⟩ := exists_splitList p before
    rw [h] at ih
    by_cases hb : p b = true <;> simp [splitList, ih, h, hb]

/-- Without a separator there is one piece. -/
theorem splitList_plain {p : Char → Bool} : ∀ {cs : List Char}, (∀ c ∈ cs, p c = false) →
    splitList p cs = [cs]
  | [], _ => rfl
  | c :: cs, h => by
    obtain ⟨hc, hcs⟩ := List.forall_mem_cons.1 h
    simp [splitList, splitList_plain hcs, hc]

theorem splitList_intercalate {sep : Char} {pieces : List (List Char)} (hne : pieces ≠ [])
    (h : ∀ piece ∈ pieces, sep ∉ piece) :
    splitList (· == sep) ([sep].intercalate pieces) = pieces := by
  have hplain : ∀ piece ∈ pieces, splitList (· == sep) piece = [piece] := fun piece hpiece =>
    splitList_plain fun c hc => beq_eq_false_iff_ne.2 fun heq => h piece hpiece (heq ▸ hc)
  clear h
  induction pieces with
  | nil => exact absurd rfl hne
  | cons piece pieces ih =>
    obtain ⟨hpiece, hpieces⟩ := List.forall_mem_cons.1 hplain
    cases pieces with
    | nil => simpa using hpiece
    | cons next pieces =>
      rw [List.intercalate_cons_cons, List.append_assoc, List.singleton_append,
        splitList_append (by simp), hpiece, ih (by simp) hpieces]
      rfl

theorem intercalate_splitList (sep : Char) : ∀ cs : List Char,
    [sep].intercalate (splitList (· == sep) cs) = cs
  | [] => rfl
  | c :: cs => by
    have ih := intercalate_splitList sep cs
    obtain ⟨piece, pieces, h⟩ := exists_splitList (· == sep) cs
    rw [h] at ih
    by_cases hc : c = sep
    · simp [splitList, h, hc, List.intercalate_cons_cons, ih]
    · have hpieces : splitList (· == sep) (c :: cs) = (c :: piece) :: pieces := by
        simp [splitList, h, hc]
      rw [hpieces]
      cases pieces <;> simpa [List.intercalate_cons_cons] using ih

/-- All characters but the separators stand in the pieces. -/
theorem forall_mem_splitList {p : Char → Bool} {q : Char → Prop} : ∀ {cs : List Char},
    (∀ piece ∈ splitList p cs, ∀ c ∈ piece, q c) ↔ ∀ c ∈ cs, p c = true ∨ q c
  | [] => by simp [splitList]
  | c :: cs => by
    have ih := @forall_mem_splitList p q cs
    obtain ⟨piece, pieces, h⟩ := exists_splitList p cs
    rw [h] at ih
    by_cases hc : p c = true
    · simp [splitList, h, hc, ← ih]
    · simp [splitList, h, hc, ← ih, and_assoc]

/-- The first piece stands at the start, any other after a separator. -/
theorem splitList_eq_cons {p : Char → Bool} {cs piece : List Char} {pieces : List (List Char)}
    (h : splitList p cs = piece :: pieces) : (∃ after, cs = piece ++ after) ∧
      ∀ other ∈ pieces, ∃ before c after, p c = true ∧ cs = before ++ c :: (other ++ after) := by
  induction cs generalizing piece pieces with
  | nil =>
    obtain ⟨rfl, rfl⟩ := List.cons.inj h
    exact ⟨⟨[], rfl⟩, by simp⟩
  | cons c cs ih =>
    obtain ⟨first, others, hcs⟩ := exists_splitList p cs
    obtain ⟨⟨after, hafter⟩, hothers⟩ := ih hcs
    have hothers' : ∀ other ∈ others, ∃ before d after, p d = true ∧
        c :: cs = before ++ d :: (other ++ after) := fun other hmem => by
      obtain ⟨before, d, after, hd, hsplit⟩ := hothers other hmem
      exact ⟨c :: before, d, after, hd, by rw [hsplit, List.cons_append]⟩
    by_cases hc : p c = true
    · obtain ⟨rfl, rfl⟩ : [] = piece ∧ first :: others = pieces := by
        simpa [splitList, hcs, hc] using h
      exact ⟨⟨c :: cs, rfl⟩,
        List.forall_mem_cons.2 ⟨⟨[], c, after, hc, by rw [hafter]; rfl⟩, hothers'⟩⟩
    · obtain ⟨rfl, rfl⟩ : c :: first = piece ∧ others = pieces := by
        simpa [splitList, hcs, hc] using h
      exact ⟨⟨after, by rw [hafter, List.cons_append]⟩, hothers'⟩

theorem split_append (sep : Char) (before after : String) :
    split sep (before ++ String.singleton sep ++ after) = split sep before ++ split sep after := by
  have h := splitList_append (p := (· == sep)) (beq_self_eq_true sep) after.toList before.toList
  simp [split, h]

/-- The pieces of a text: separators between them make up the text, and none is in a piece. -/
structure IsCut (sep : Char) (s : String) (pieces : List String) : Prop where
  ne_nil : pieces ≠ []
  plain : ∀ piece ∈ pieces, sep ∉ piece.toList
  joined : (String.singleton sep).intercalate pieces = s

theorem isCut_iff {sep : Char} {s : String} {pieces : List String} :
    IsCut sep s pieces ↔ split sep s = pieces := by
  constructor
  · rintro ⟨hne, hplain, rfl⟩
    rw [split, String.toList_intercalate, String.toList_singleton,
      splitList_intercalate (by simpa using hne) (by simpa using hplain), List.map_map]
    simp [Function.comp_def]
  · rintro rfl
    obtain ⟨piece, pieces, h⟩ := exists_splitList (· == sep) s.toList
    have hplain : ∀ piece ∈ splitList (· == sep) s.toList, ∀ c ∈ piece, c ≠ sep :=
      forall_mem_splitList.2 fun c _ => by simpa using Decidable.em (c = sep)
    refine ⟨by simp [split, h], fun piece hpiece hsep => ?_, ?_⟩
    · obtain ⟨cs, hcs, rfl⟩ := List.mem_map.1 hpiece
      exact hplain cs hcs sep (by simpa using hsep) rfl
    · refine String.toList_inj.1 ?_
      rw [String.toList_intercalate, String.toList_singleton, split, List.map_map]
      simpa [Function.comp_def] using intercalate_splitList sep s.toList

/-! ## Blanks at the ends -/

/-- Signs, digits and letters of ASCII are no blanks. -/
theorem isBlank_ascii {c : Char} (hlow : 32 < c.toNat) (hhigh : c.toNat < 127) :
    isBlank c = false := by
  simp only [isBlank, Bool.or_eq_false_iff, Bool.and_eq_false_iff, decide_eq_false_iff_not,
    beq_eq_false_iff_ne]
  omega

variable {before core after : List Char}

theorem dropBlankStart_append (hb : ∀ c ∈ before, isBlank c = true) (rest : List Char) :
    dropBlankStart (before ++ rest) = dropBlankStart rest := List.dropWhile_append_of_pos hb

theorem dropBlankEnd_append (rest : List Char) (ha : ∀ c ∈ after, isBlank c = true) :
    dropBlankEnd (rest ++ after) = dropBlankEnd rest := by
  rw [dropBlankEnd, List.reverse_append, List.dropWhile_append_of_pos (by simpa using ha)]
  rfl

theorem exists_dropBlankEnd (cs : List Char) :
    ∃ after, (∀ c ∈ after, isBlank c = true) ∧ cs = dropBlankEnd cs ++ after := by
  refine ⟨(cs.reverse.takeWhile isBlank).reverse, fun c hc => ?_, ?_⟩
  · exact List.mem_takeWhile_imp (List.mem_reverse.1 hc)
  · rw [dropBlankEnd, ← List.reverse_append, List.takeWhile_append_dropWhile, List.reverse_reverse]

/-- Blanks around a text do not matter. -/
theorem trimList_append (hb : ∀ c ∈ before, isBlank c = true) (ha : ∀ c ∈ after, isBlank c = true)
    (rest : List Char) : trimList (before ++ rest ++ after) = trimList rest := by
  have hrest : dropBlankEnd (dropBlankStart (rest ++ after)) = trimList rest := by
    unfold trimList dropBlankStart
    rw [List.dropWhile_append]
    cases hs : rest.dropWhile isBlank with
    | nil =>
      have hnone : after.dropWhile isBlank = [] := List.dropWhile_eq_nil_iff.2 ha
      simp [hnone]
    | cons c cs => simpa using dropBlankEnd_append (c :: cs) ha
  rw [trimList, List.append_assoc, dropBlankStart_append hb, hrest]

/-- A text that begins and ends without a blank is kept, and what stands behind it loses the blanks
at its end. -/
theorem trimList_core (hne : core ≠ []) (hfirst : ∀ c ∈ core.head?, isBlank c = false)
    (hlast : ∀ c ∈ core.getLast?, isBlank c = false) (rest : List Char) :
    trimList (core ++ rest) = core ++ dropBlankEnd rest := by
  have hstart : dropBlankStart (core ++ rest) = core ++ rest := by
    cases core with
    | nil => exact absurd rfl hne
    | cons c cs => simp [dropBlankStart, hfirst c rfl]
  have hend : core.reverse.dropWhile isBlank = core.reverse := by
    cases hr : core.reverse with
    | nil => rfl
    | cons c cs =>
      have hc : core.getLast? = some c := by rw [← List.head?_reverse, hr]; rfl
      simp [hlast c hc]
  rw [trimList, hstart, dropBlankEnd, dropBlankEnd, List.reverse_append,
    List.dropWhile_append, hend]
  cases hr : rest.reverse.dropWhile isBlank <;> simp

/-- So it is what is left of it all between blanks. -/
theorem trimList_ends (hb : ∀ c ∈ before, isBlank c = true) (ha : ∀ c ∈ after, isBlank c = true)
    (hfirst : ∀ c ∈ core.head?, isBlank c = false)
    (hlast : ∀ c ∈ core.getLast?, isBlank c = false) :
    trimList (before ++ core ++ after) = core := by
  rw [trimList_append hb ha]
  by_cases hne : core = []
  · subst hne
    rfl
  · have h := trimList_core hne hfirst hlast []
    rw [List.append_nil] at h
    rw [h]
    exact List.append_nil core

/-- What stands between blanks is what is left of it all. -/
theorem trimList_between (hb : ∀ c ∈ before, isBlank c = true) (ha : ∀ c ∈ after, isBlank c = true)
    (hc : ∀ c ∈ core, isBlank c = false) : trimList (before ++ core ++ after) = core :=
  trimList_ends hb ha (fun c h => hc c (List.mem_of_mem_head? h))
    fun c h => hc c (List.mem_of_mem_getLast? h)

theorem exists_trimList (cs : List Char) : ∃ before after, (∀ c ∈ before, isBlank c = true) ∧
    (∀ c ∈ after, isBlank c = true) ∧ cs = before ++ trimList cs ++ after := by
  obtain ⟨after, ha, hend⟩ := exists_dropBlankEnd (dropBlankStart cs)
  refine ⟨cs.takeWhile isBlank, after, fun c hc => List.mem_takeWhile_imp hc, ha, ?_⟩
  rw [List.append_assoc, trimList, ← hend]
  exact (List.takeWhile_append_dropWhile).symm

theorem trimList_eq_nil {cs : List Char} : trimList cs = [] ↔ ∀ c ∈ cs, isBlank c = true := by
  constructor
  · intro h
    obtain ⟨before, after, hb, ha, hcs⟩ := exists_trimList cs
    rw [hcs, h]
    simpa [or_imp, forall_and] using And.intro hb ha
  · intro h
    have hall : trimList (cs ++ [] ++ []) = trimList [] := trimList_append h (by simp) []
    rw [List.append_nil, List.append_nil] at hall
    exact hall

theorem trim_between {before core after : String} (hb : ∀ c ∈ before.toList, isBlank c = true)
    (ha : ∀ c ∈ after.toList, isBlank c = true) (hc : ∀ c ∈ core.toList, isBlank c = false) :
    trim (before ++ core ++ after) = core := by
  have h := trimList_between hb ha hc
  rw [trim, String.toList_append, String.toList_append, h, String.ofList_toList]

theorem exists_between (s : String) : ∃ before after : String,
    (∀ c ∈ before.toList, isBlank c = true) ∧ (∀ c ∈ after.toList, isBlank c = true) ∧
      s = before ++ trim s ++ after := by
  obtain ⟨before, after, hb, ha, hs⟩ := exists_trimList s.toList
  refine ⟨.ofList before, .ofList after, by simpa using hb, by simpa using ha, ?_⟩
  refine String.toList_inj.1 ?_
  simpa [trim] using hs

/-! ## Letter case -/

theorem toNat_of_isAlpha {c : Char} (h : c.isAlpha = true) : 65 ≤ c.toNat ∧ c.toNat ≤ 122 := by
  rcases Bool.or_eq_true_iff.1 h with h | h
  · obtain ⟨hlow, hhigh⟩ := of_decide_eq_true h
    have hlow : 65 ≤ c.toNat := hlow
    have hhigh : c.toNat ≤ 90 := hhigh
    omega
  · obtain ⟨hlow, hhigh⟩ := Bool.and_eq_true_iff.1 h
    have hlow : 97 ≤ c.toNat := of_decide_eq_true hlow
    have hhigh : c.toNat ≤ 122 := of_decide_eq_true hhigh
    omega

theorem isAlpha_of_isBlank {c : Char} (h : isBlank c = true) : c.isAlpha = false := by
  rw [← Bool.not_eq_true]
  intro hc
  obtain ⟨hlow, hhigh⟩ := toNat_of_isAlpha hc
  exact Bool.noConfusion ((isBlank_ascii (by omega) (by omega)).symm.trans h)

theorem toList_asciiLower (s : String) : (asciiLower s).toList = s.toList.map Char.toLower :=
  String.toList_ofList

@[simp] theorem asciiLower_asciiLower (s : String) : asciiLower (asciiLower s) = asciiLower s := by
  have hlower : ∀ c : Char, c.toLower.toLower = c.toLower := fun c => by
    unfold Char.toLower
    split
    · rename_i h
      rw [dif_neg]
      simp [UInt32.le_iff_toNat_le] at h ⊢
      omega
    · rfl
  simp [asciiLower, Function.comp_def, hlower]

theorem sameIgnoringCase_iff {a b : String} :
    sameIgnoringCase a b = true ↔ asciiLower a = asciiLower b := by
  simp [sameIgnoringCase]

end Text
end MysqlMetrics
