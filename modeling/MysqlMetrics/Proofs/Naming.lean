import MysqlMetrics.Naming
/-!
# Metric names taken apart

A stem is never empty, so a name with a namespace and a subsystem is these and the stem between
underscores (`join_eq`): two names that share them are told apart by their stems. Whatever text it
is made of, a stem has no characters but its own (`isStemChar_of_mem_stem`), and so is a part that
names are put together of (`isNamePart_stem`).
-/
namespace MysqlMetrics

/-- May the character stand in the name of a metric? -/
def isNameChar (c : Char) : Bool := c.isLower || c.isDigit || c == '_'

/-- What a name is put together of: some characters, and at least one. -/
structure IsNamePart (s : String) : Prop where
  ne_empty : s ≠ ""
  chars : ∀ c ∈ s.toList, isNameChar c = true

/-- A part that is written out is looked at character by character. -/
theorem isNamePart_ofList {cs : List Char} (h : (!cs.isEmpty && cs.all isNameChar) = true) :
    IsNamePart (String.ofList cs) := by
  obtain ⟨hne, hchars⟩ := Bool.and_eq_true_iff.1 h
  refine ⟨fun he => ?_, ?_⟩
  · rw [String.ofList_eq_empty_iff.1 he] at hne
    cases hne
  · rw [String.toList_ofList]
    exact List.all_eq_true.1 hchars

theorem IsNamePart.append {s t : String} (hs : IsNamePart s) (ht : IsNamePart t) :
    IsNamePart (s ++ t) := by
  refine ⟨fun h => hs.ne_empty (String.append_eq_empty_iff.1 h).1, fun c hc => ?_⟩
  rw [String.toList_append] at hc
  exact (List.mem_append.1 hc).elim (hs.chars c) (ht.chars c)

namespace Naming

theorem stem_ne_empty (s : String) : stem s ≠ "" := by
  unfold stem
  split
  · decide
  · rename_i cs hne
    intro h
    exact hne (String.ofList_eq_empty_iff.1 h)

theorem isStemChar_of_mem_stemChars {x c : Char} (h : c ∈ stemChars x) : isStemChar c = true := by
  unfold stemChars at h
  split at h
  · rename_i hx
    rwa [List.mem_singleton.1 h]
  · split at h
    · exact List.all_eq_true.1 (show "_and_".toList.all isStemChar = true by decide) c h
    · split at h
      · cases h
      · rw [List.mem_singleton.1 h]
        decide

theorem isStemChar_of_mem_stem {s : String} {c : Char} (h : c ∈ (stem s).toList) :
    isStemChar c = true := by
  unfold stem at h
  split at h
  · exact List.all_eq_true.1 (show "unknown".toList.all isStemChar = true by decide) c h
  · rw [String.toList_ofList] at h
    obtain ⟨x, -, hc⟩ := List.mem_flatMap.1 h
    exact isStemChar_of_mem_stemChars hc

/-- A name begins with the namespace and the subsystem. -/
theorem isPrefix_join {ns subsystem : String} (hn : ns ≠ "") (hs : subsystem ≠ "")
    (stem : String) : (ns ++ "_" ++ subsystem).toList <+: (join ns subsystem stem).toList := by
  unfold join
  rw [List.filter_cons_of_pos (by simpa using hn), List.filter_cons_of_pos (by simpa using hs)]
  generalize [stem].filter (fun part => !part.isEmpty) = rest
  rw [String.intercalate_cons_cons]
  cases rest with
  | nil => simp
  | cons part rest =>
    rw [String.intercalate_cons_cons]
    simp [List.append_assoc, List.prefix_append_right_inj]

theorem join_eq {ns subsystem stem : String} (hn : ns ≠ "") (hs : subsystem ≠ "") (ht : stem ≠ "") :
    join ns subsystem stem = ns ++ "_" ++ subsystem ++ "_" ++ stem := by
  unfold join
  rw [List.filter_cons_of_pos (by simpa using hn), List.filter_cons_of_pos (by simpa using hs),
    List.filter_cons_of_pos (by simpa using ht)]
  simp [String.intercalate_cons_cons, String.append_assoc]

theorem join_stem_inj {ns subsystem a b : String} (hn : ns ≠ "") (hs : subsystem ≠ "") :
    join ns subsystem (stem a) = join ns subsystem (stem b) ↔ stem a = stem b := by
  rw [join_eq hn hs (stem_ne_empty a), join_eq hn hs (stem_ne_empty b)]
  exact String.append_right_inj _

end Naming

theorem isNameChar_eq_isStemChar (c : Char) : isNameChar c = Naming.isStemChar c := rfl

theorem isNamePart_stem (text : String) : IsNamePart (Naming.stem text) :=
  ⟨Naming.stem_ne_empty text, fun c hc =>
    (isNameChar_eq_isStemChar c).trans (Naming.isStemChar_of_mem_stem hc)⟩

end MysqlMetrics
