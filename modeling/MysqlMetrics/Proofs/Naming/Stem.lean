import MysqlMetrics.Proofs.Naming
import MysqlMetrics.Proofs.Text
import MysqlMetrics.Proofs.Text.Lowercase
/-!
# Stems as a normal form

Any text becomes a stem, and a stem stays as it is: it is made of characters that are their own
small letters and stand for themselves. So the stems are exactly the parts that names are put
together of, and whether ASCII letters are written large or small does not show in them
(`stem_normal`).
-/
namespace MysqlMetrics.Naming

open Text

variable {c : Char} {cs : List Char} {s : String}

/-- Small letters, digits and the underscore. -/
theorem isStemChar_bounds (h : isStemChar c = true) :
    (97 ≤ c.toNat ∧ c.toNat ≤ 122) ∨ (48 ≤ c.toNat ∧ c.toNat ≤ 57) ∨ c.toNat = 95 := by
  simp only [isStemChar, Bool.or_eq_true, Bool.and_eq_true, decide_eq_true_eq, beq_iff_eq,
    Char.le_def, UInt32.le_iff_toNat_le] at h
  rcases h with (h | h) | rfl
  · exact .inl h
  · exact .inr (.inl h)
  · exact .inr (.inr rfl)

theorem isLower_of_isStemChar (h : isStemChar c = true) : IsLower c := by
  have hbounds := isStemChar_bounds h
  refine isLower_of_ascii (by omega) ?_
  rw [← Bool.not_eq_true]
  intro hcase
  have hupper := isUpper_bounds hcase
  omega

/-- What may stand in a stem is kept. -/
theorem stemList_of_isStemChar (h : ∀ c ∈ cs, isStemChar c = true) : stemList cs = cs := by
  induction cs with
  | nil => rfl
  | cons c cs ih =>
    obtain ⟨hc, hcs⟩ := List.forall_mem_cons.1 h
    have hfirst : stemList [c] = [c] := by
      rw [stemList, List.flatMap_singleton, (isLower_of_isStemChar hc).lowerChar_eq,
        List.flatMap_singleton, stemChars, if_pos hc]
    have hsplit : stemList (c :: cs) = stemList [c] ++ stemList cs := by
      simp [stemList]
    rw [hsplit, hfirst, ih hcs]
    rfl

theorem stem_of_isNamePart (h : IsNamePart s) : stem s = s := by
  have hlist : stemList s.toList = s.toList := stemList_of_isStemChar fun c hc =>
    (isNameChar_eq_isStemChar c).symm.trans (h.chars c hc)
  unfold stem
  rw [hlist]
  split
  · rename_i hnil
    exact absurd (String.toList_eq_nil_iff.1 hnil) h.ne_empty
  · exact String.ofList_toList

theorem stem_asciiLower (s : String) : stem (asciiLower s) = stem s := by
  have hlist : stemList (asciiLower s).toList = stemList s.toList := by
    rw [stemList, toList_asciiLower, List.flatMap_map]
    simp only [lowerChar_toLower]
    rfl
  unfold stem
  rw [hlist]

/-- **Stems are a normal form.** Whatever text it is made of, a stem is some small letters, digits
and underscores, at least one. Making a stem changes nothing but texts that are none yet, so that
doing it twice is doing it once, and the case of ASCII letters does not matter. -/
theorem stem_normal (s : String) :
    IsNamePart (stem s) ∧ stem (stem s) = stem s ∧ (stem s = s ↔ IsNamePart s) ∧
      ∀ t, sameIgnoringCase s t = true → stem t = stem s := by
  have hstem : IsNamePart (stem s) := isNamePart_stem s
  refine ⟨hstem, stem_of_isNamePart hstem, ⟨fun h => h ▸ hstem, stem_of_isNamePart⟩, fun t ht => ?_⟩
  rw [← stem_asciiLower t, ← sameIgnoringCase_iff.1 ht, stem_asciiLower]

/-- A dotted capital becomes two characters, and the sign of the kelvin a letter of ASCII. -/
theorem stem_normal_foreign :
    sameIgnoringCase "Bytes İn/\u212A+É" "bYTES İN/\u212A+É" = true ∧
    stem "Bytes İn/\u212A+É" = "bytes_i_n_and_k_and__" ∧
    stem "bYTES İN/\u212A+É" = "bytes_i_n_and_k_and__" ∧
    stem "bytes_i_n_and_k_and__" = "bytes_i_n_and_k_and__" := by
  have hsame : sameIgnoringCase "Bytes İn/\u212A+É" "bYTES İN/\u212A+É" = true := by decide +kernel
  have hstem : stem "Bytes İn/\u212A+É" = "bytes_i_n_and_k_and__" := by decide +kernel
  obtain ⟨-, htwice, -, hcase⟩ := stem_normal "Bytes İn/\u212A+É"
  refine ⟨hsame, hstem, (hcase _ hsame).trans hstem, ?_⟩
  rwa [hstem] at htwice

end MysqlMetrics.Naming
