import Mathlib.Data.List.Induction
import MysqlMetrics.Proofs.Collector.Behavior
/-!
# Which label rule takes a key

A key is for the rule with the longest start that it begins with, whatever the letter case
(`LabelRule.Finds`). The search puts the key into small letters and takes the starts as they are
written: among the rules whose starts are in small letters it finds what is to be found
(`finds_best`), and any other rule is passed over. So a list of rules can be relied on if and only
if every start stands in it in small letters, too (`finds_best_iff`).
-/
namespace MysqlMetrics

namespace Text

@[simp] theorem asciiLower_append (s t : String) :
    asciiLower (s ++ t) = asciiLower s ++ asciiLower t := by
  simp [asciiLower, String.ofList_append]

@[simp] theorem length_asciiLower (s : String) : (asciiLower s).length = s.length := by
  rw [asciiLower, String.length_ofList, List.length_map, String.length_toList]

/-- Of two texts that begin another, one of the same length is the other. -/
theorem append_inj_of_length {s s' t t' : String} (h : s ++ t = s' ++ t')
    (hl : s.length = s'.length) : s = s' ∧ t = t' := by
  rw [← String.toList_inj, String.toList_append, String.toList_append] at h
  rw [← String.length_toList, ← String.length_toList] at hl
  obtain ⟨hs, ht⟩ := List.append_inj h hl
  exact ⟨String.toList_inj.1 hs, String.toList_inj.1 ht⟩

/-- What a text in small letters is made of is in small letters. -/
theorem asciiLower_of_append {s t : String} (h : asciiLower (s ++ t) = s ++ t) :
    asciiLower s = s ∧ asciiLower t = t := by
  rw [asciiLower_append] at h
  exact append_inj_of_length h (length_asciiLower s)

end Text

namespace LabelRule

variable {rules : List LabelRule} {rule x : LabelRule} {key rest : String}
  {found : Option (LabelRule × String)}

/-- The key begins with the start of the rule, whatever the letter case, and `rest` follows in small
letters. -/
def Opens (rule : LabelRule) (key rest : String) : Prop :=
  Text.asciiLower key = Text.asciiLower rule.start ++ rest ∧ rest ≠ ""

instance : Decidable (rule.Opens key rest) := inferInstanceAs (Decidable (_ ∧ _))

/-- The start is written in small letters. -/
def isSmall (rule : LabelRule) : Bool := Text.asciiLower rule.start = rule.start

/-- What there is to find for a key: nothing if no rule opens it, else a rule that does, with a
longest start, and what follows it. -/
def Finds (rules : List LabelRule) (key : String) : Option (LabelRule × String) → Prop
  | none => ∀ rule ∈ rules, ∀ rest, ¬ rule.Opens key rest
  | some (rule, rest) => rule ∈ rules ∧ rule.Opens key rest ∧
    ∀ other ∈ rules, ∀ rest', other.Opens key rest' → other.start.length ≤ rule.start.length

/-- The start and what follows it are the key, up to the case of letters. -/
theorem Opens.same (h : rule.Opens key rest) :
    Text.sameIgnoringCase (rule.start ++ rest) key = true := by
  have hlow : Text.asciiLower (Text.asciiLower rule.start ++ rest) =
      Text.asciiLower rule.start ++ rest := by
    rw [← h.1, Text.asciiLower_asciiLower]
  rw [Text.sameIgnoringCase_iff, Text.asciiLower_append, (Text.asciiLower_of_append hlow).2, h.1]

theorem Opens.congr (h : rule.Opens key rest)
    (hs : Text.asciiLower x.start = Text.asciiLower rule.start) : x.Opens key rest := by
  rw [Opens, hs]
  exact h

/-- Whatever letters a start is written in, there is a key that it opens. -/
theorem opens_append (rule : LabelRule) : rule.Opens (rule.start ++ "x") "x" :=
  ⟨Text.asciiLower_append _ _, by decide⟩

/-! ## The search -/

/-- The search looks for starts in small letters. -/
theorem isSmall_opens_iff : rule.isSmall = true ∧ rule.Opens key rest ↔
    Text.after? rule.start (Text.asciiLower key) = some rest ∧ rest ≠ "" := by
  rw [Text.after?_eq_some, isSmall, decide_eq_true_eq]
  constructor
  · rintro ⟨hsmall, h, hne⟩
    exact ⟨by rw [h, hsmall], hne⟩
  · rintro ⟨h, hne⟩
    have hlow : Text.asciiLower (rule.start ++ rest) = rule.start ++ rest := by
      rw [← h, Text.asciiLower_asciiLower]
    have hsmall := (Text.asciiLower_of_append hlow).1
    exact ⟨hsmall, by rw [h, hsmall], hne⟩

theorem better_of_opens (hs : x.isSmall = true) (ho : x.Opens key rest) :
    better key found x = match found with
      | some (old, _) => if old.start.length ≤ x.start.length then some (x, rest) else found
      | none => some (x, rest) := by
  obtain ⟨ha, hne⟩ := isSmall_opens_iff.1 ⟨hs, ho⟩
  unfold better
  rw [ha]
  exact if_neg (mt String.isEmpty_iff.1 hne)

theorem better_of_not_opens (h : ∀ rest, ¬ (x.isSmall = true ∧ x.Opens key rest)) :
    better key found x = found := by
  unfold better
  split
  · rfl
  · rename_i rest ha
    by_cases hne : rest = ""
    · rw [if_pos (String.isEmpty_iff.2 hne)]
    · exact absurd (isSmall_opens_iff.2 ⟨ha, hne⟩) (h rest)

/-- A rule that the key is not for changes nothing. -/
theorem Finds.skip (h : Finds rules key found) (hx : ∀ rest, ¬ x.Opens key rest) :
    Finds (rules ++ [x]) key found := by
  cases found with
  | none =>
    intro rule hrule rest
    rcases List.mem_append.1 hrule with hrule | hrule
    · exact h rule hrule rest
    · rw [List.mem_singleton.1 hrule]
      exact hx rest
  | some p =>
    obtain ⟨hmem, ho, hlongest⟩ := h
    refine ⟨List.mem_append_left _ hmem, ho, fun other hother rest' ho' => ?_⟩
    rcases List.mem_append.1 hother with hother | hother
    · exact hlongest other hother rest' ho'
    · rw [List.mem_singleton.1 hother] at ho'
      exact absurd ho' (hx rest')

/-- One more rule in small letters. -/
theorem Finds.better (h : Finds rules key found) (hs : x.isSmall = true) :
    Finds (rules ++ [x]) key (better key found x) := by
  by_cases ho : ∃ rest, x.Opens key rest
  · obtain ⟨rest, ho⟩ := ho
    have hmem : x ∈ rules ++ [x] := List.mem_append_right _ (List.mem_singleton_self x)
    rw [better_of_opens hs ho]
    cases found with
    | none =>
      refine ⟨hmem, ho, fun other hother rest' ho' => ?_⟩
      rcases List.mem_append.1 hother with hother | hother
      · exact absurd ho' (h other hother rest')
      · rw [List.mem_singleton.1 hother]
    | some p =>
      obtain ⟨hold, hopens, hlongest⟩ := h
      dsimp only
      split
      · rename_i hle
        refine ⟨hmem, ho, fun other hother rest' ho' => ?_⟩
        rcases List.mem_append.1 hother with hother | hother
        · exact (hlongest other hother rest' ho').trans hle
        · rw [List.mem_singleton.1 hother]
      · rename_i hlt
        refine ⟨List.mem_append_left _ hold, hopens, fun other hother rest' ho' => ?_⟩
        rcases List.mem_append.1 hother with hother | hother
        · exact hlongest other hother rest' ho'
        · rw [List.mem_singleton.1 hother]
          omega
  · have hx : ∀ rest, ¬ x.Opens key rest := fun rest h => ho ⟨rest, h⟩
    rw [better_of_not_opens fun rest h => hx rest h.2]
    exact h.skip hx

/-- Among the rules in small letters the search finds what there is to find, and it finds no
other. -/
theorem finds_best (rules : List LabelRule) (key : String) :
    Finds (rules.filter isSmall) key (best rules key) := by
  rw [best_eq_foldl]
  induction rules using List.reverseRecOn with
  | nil => simp [Finds]
  | append_singleton rules x ih =>
    rw [List.foldl_append, List.foldl_cons, List.foldl_nil, List.filter_append]
    by_cases hs : x.isSmall = true
    · rw [List.filter_cons_of_pos hs, List.filter_nil]
      exact ih.better hs
    · rw [List.filter_cons_of_neg hs, List.filter_nil, List.append_nil,
        better_of_not_opens fun rest h => hs h.1]
      exact ih

/-! ## Lists of rules -/

theorem forall_finds_iff (rules : List LabelRule) : (∀ key, Finds rules key (best rules key)) ↔
    ∀ rule ∈ rules, ∃ other ∈ rules, other.start = Text.asciiLower rule.start := by
  constructor
  · intro h rule hrule
    have hfinds := h (rule.start ++ "x")
    have hsmall := finds_best rules (rule.start ++ "x")
    have hopens := rule.opens_append
    cases hb : best rules (rule.start ++ "x") with
    | none =>
      rw [hb] at hfinds
      exact absurd hopens (hfinds rule hrule "x")
    | some p =>
      obtain ⟨other, rest⟩ := p
      rw [hb] at hfinds hsmall
      obtain ⟨hother, ho, hlongest⟩ := hfinds
      have hlow : Text.asciiLower other.start = other.start :=
        of_decide_eq_true (List.mem_filter.1 hsmall.1).2
      have hle := hlongest rule hrule "x" hopens
      have heq : Text.asciiLower other.start ++ rest = Text.asciiLower rule.start ++ "x" :=
        ho.1.symm.trans hopens.1
      -- one character follows the start of `rule`, so the other start is no longer
      have hlen : other.start.length + rest.length = rule.start.length + 1 := by
        simpa [show "x".length = 1 from rfl] using congrArg String.length heq
      have hrest : rest.length ≠ 0 := mt String.length_eq_zero_iff.1 ho.2
      refine ⟨other, hother, hlow.symm.trans ?_⟩
      exact (Text.append_inj_of_length heq (by simp; omega)).1
  · intro h key
    have hsmall := finds_best rules key
    -- whatever a rule opens is opened by one in small letters that is as long
    have hcover : ∀ rule ∈ rules, ∀ rest, rule.Opens key rest → ∃ other ∈ rules.filter isSmall,
        other.Opens key rest ∧ other.start.length = rule.start.length := by
      intro rule hrule rest ho
      obtain ⟨other, hother, hstart⟩ := h rule hrule
      have hlow : Text.asciiLower other.start = Text.asciiLower rule.start := by
        rw [hstart, Text.asciiLower_asciiLower]
      have hmem : other ∈ rules.filter isSmall :=
        List.mem_filter.2 ⟨hother, decide_eq_true (hlow.trans hstart.symm)⟩
      exact ⟨other, hmem, ho.congr hlow, by rw [hstart, Text.length_asciiLower]⟩
    cases hb : best rules key with
    | none =>
      rw [hb] at hsmall
      intro rule hrule rest ho
      obtain ⟨other, hother, ho', -⟩ := hcover rule hrule rest ho
      exact hsmall other hother rest ho'
    | some p =>
      rw [hb] at hsmall
      obtain ⟨hmem, ho, hlongest⟩ := hsmall
      refine ⟨(List.mem_filter.1 hmem).1, ho, fun rule hrule rest' ho' => ?_⟩
      obtain ⟨other, hother, ho', hlen⟩ := hcover rule hrule rest' ho'
      exact hlen.symm.le.trans (hlongest other hother rest' ho')

/-- **The rule of a key**: what is found is what there is to find among the rules in small letters,
and start and rest are the key again. Every key finds its rule if and only if the start of every
rule stands in the list in small letters. -/
theorem finds_best_iff (rules : List LabelRule) :
    (∀ key, Finds (rules.filter isSmall) key (best rules key)) ∧
    (∀ key rule rest, best rules key = some (rule, rest) →
      Text.sameIgnoringCase (rule.start ++ rest) key = true) ∧
    ((∀ key, Finds rules key (best rules key)) ↔
      ∀ rule ∈ rules, ∃ other ∈ rules, other.start = Text.asciiLower rule.start) := by
  refine ⟨finds_best rules, fun key rule rest h => ?_, forall_finds_iff rules⟩
  have hsmall := finds_best rules key
  rw [h] at hsmall
  exact hsmall.2.1.same

/-- A rule whose start is written with a capital letter. -/
def capital : LabelRule := ⟨"Com_", "mysql_com", "Commands.", .counter, ["command"], []⟩

/-- It opens keys, but is found for none. -/
theorem not_finds_capital :
    capital.Opens "com_select" "select" ∧ best [capital] "com_select" = none ∧
    ¬ ∀ key, Finds [capital] key (best [capital] key) :=
  ⟨by decide, by decide, fun h => by
    obtain ⟨other, hother, hstart⟩ :=
      (finds_best_iff [capital]).2.2.1 h capital (List.mem_singleton_self _)
    rw [List.mem_singleton.1 hother] at hstart
    exact absurd hstart (by decide)⟩

end LabelRule
end MysqlMetrics
