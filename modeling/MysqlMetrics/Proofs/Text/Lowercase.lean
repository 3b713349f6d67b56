import Mathlib
import MysqlMetrics.Text.Lowercase
/-!
# Lower case is settled

What a character is turned into stands for itself in lower case, whatever is around it (`IsLower`):
no letter of the table leads to a capital (`avoids_of_mem`), and neither form of the small sigma
depends on its place again. So lower case of lower case is nothing new (`lowercase_lowercase`), and
as every small letter comes behind the signs and digits of ASCII, those stand where they stood and
nowhere else (`forall_mem_lowercase`).
-/
namespace MysqlMetrics.Text

/-! ## The table -/

namespace CaseRange

variable {r s : CaseRange} {n : Nat}

/-- The small letter of a code point in the range. -/
def target (r : CaseRange) (n : Nat) : Nat := (n + r.shift).toNat

/-- No code point of the range has its small letter in `s`. -/
def avoids (r s : CaseRange) : Bool :=
  Nat.blt (r.target r.last) s.first || Nat.blt s.last (r.target r.first) ||
    (List.range ((r.last - r.first) / r.step + 1)).all fun k =>
      !s.covers (r.target r.first + k * r.step)

/-- The small letters are characters, and come behind the signs and digits of ASCII. -/
def isProper (r : CaseRange) : Bool :=
  Nat.ble 97 (r.target r.first) &&
    (Nat.blt (r.target r.last) 0xD800 ||
      Nat.ble 0xE000 (r.target r.first) && Nat.blt (r.target r.last) 0x110000)

theorem bounds_of_covers (hn : r.covers n = true) : r.first ≤ n ∧ n ≤ r.last := by
  simp only [covers, Bool.and_eq_true, decide_eq_true_eq] at hn
  exact hn.1

/-- Small letters stand as far from each other as their capitals. -/
theorem target_eq (hr : r.isProper = true) (hn : r.first ≤ n) :
    97 ≤ r.target r.first ∧ r.target n = r.target r.first + (n - r.first) := by
  have hlow : 97 ≤ r.target r.first := Nat.le_of_ble_eq_true (Bool.and_eq_true_iff.1 hr).1
  refine ⟨hlow, ?_⟩
  unfold target at *
  omega

theorem le_target (hr : r.isProper = true) (hn : r.covers n = true) : 97 ≤ r.target n := by
  obtain ⟨hlow, htarget⟩ := target_eq hr (bounds_of_covers hn).1
  omega

theorem isValidChar_target (hr : r.isProper = true) (hn : r.covers n = true) :
    (r.target n).isValidChar := by
  obtain ⟨hfirst, hlast⟩ := bounds_of_covers hn
  have htarget := target_eq hr hfirst
  have hgreatest := target_eq hr (hfirst.trans hlast)
  have hrange := (Bool.and_eq_true_iff.1 hr).2
  simp only [Bool.or_eq_true, Bool.and_eq_true, Nat.blt_eq, Nat.ble_eq] at hrange
  unfold Nat.isValidChar
  omega

/-- The code points of a range are reached in steps. -/
theorem exists_steps (hn : r.covers n = true) :
    ∃ k < (r.last - r.first) / r.step + 1, n = r.first + k * r.step := by
  obtain ⟨hfirst, hlast⟩ := bounds_of_covers hn
  have hstep : (n - r.first) % r.step = 0 := by
    simp only [covers, Bool.and_eq_true, beq_iff_eq] at hn
    exact hn.2
  refine ⟨(n - r.first) / r.step, ?_, ?_⟩
  · exact Nat.lt_succ_of_le (Nat.div_le_div_right (Nat.sub_le_sub_right hlast _))
  · rw [Nat.div_mul_cancel (Nat.dvd_of_mod_eq_zero hstep), Nat.add_sub_cancel' hfirst]

theorem covers_target (hr : r.isProper = true) (h : r.avoids s = true) (hn : r.covers n = true) :
    s.covers (r.target n) = false := by
  obtain ⟨hfirst, hlast⟩ := bounds_of_covers hn
  have htarget := (target_eq hr hfirst).2
  have hgreatest := (target_eq hr (hfirst.trans hlast)).2
  rcases Bool.or_eq_true_iff.1 h with h | h
  · have hout : r.target n < s.first ∨ s.last < r.target n := by
      simp only [Bool.or_eq_true, Nat.blt_eq] at h
      omega
    simp only [covers, Bool.and_eq_false_iff, decide_eq_false_iff_not]
    omega
  · obtain ⟨k, hk, rfl⟩ := exists_steps hn
    have hmissed := List.all_eq_true.1 h k (List.mem_range.2 hk)
    rw [htarget, Nat.add_sub_cancel_left]
    simpa using hmissed

end CaseRange

theorem isProper_of_mem : ∀ r ∈ smallLetters, r.isProper = true :=
  List.all_eq_true.1 (by decide +kernel)

/-- No small letter of the table has a small letter itself. -/
theorem avoids_of_mem : ∀ r ∈ smallLetters, ∀ s ∈ smallLetters, r.avoids s = true := by
  have hall : (smallLetters.all fun r => smallLetters.all r.avoids) = true := by decide +kernel
  exact fun r hr => List.all_eq_true.1 (List.all_eq_true.1 hall r hr)

/-- Nor is one of them the capital that leads to two characters. -/
theorem avoids_dotted : ∀ r ∈ smallLetters, r.avoids ⟨0x130, 0x130, 1, 0⟩ = true :=
  List.all_eq_true.1 (by decide +kernel)

/-! ## Characters -/

/-- A character that is its own small letter, whatever is around it. -/
structure IsLower (c : Char) : Prop where
  ne_sigma : c ≠ 'Σ'
  lowerChar_eq : lowerChar c = [c]

/-- A character that has a small letter of its own. -/
def isCapital (c : Char) : Bool := c == '\u0130' || smallLetters.any (·.covers c.toNat)

variable {c d : Char} {p : Char → Prop}

theorem isUpper_bounds (h : c.isUpper = true) : 65 ≤ c.toNat ∧ c.toNat ≤ 90 := by
  simpa [Char.isUpper, UInt32.le_iff_toNat_le] using h

theorem toNat_toLower_of_isUpper (h : c.isUpper = true) : c.toLower.toNat = c.toNat + 32 := by
  have hbounds := isUpper_bounds h
  rw [Char.toLower_eq_of_isUpper h, Char.toNat_ofNat, if_pos]
  unfold Nat.isValidChar
  omega

theorem toNat_toLower_lt (hc : c.toNat < 0x80) : c.toLower.toNat < 0x80 := by
  by_cases h : c.isUpper = true
  · have hbounds := isUpper_bounds h
    rw [toNat_toLower_of_isUpper h]
    omega
  · rwa [Char.toLower_eq_of_not_isUpper h]

theorem isLower_of_ascii (hc : c.toNat < 0x80) (hcase : c.isUpper = false) : IsLower c := by
  refine ⟨?_, ?_⟩
  · rintro rfl
    exact absurd hc (by decide)
  · rw [lowerChar, if_pos hc, Char.toLower_eq_of_not_isUpper (by simp [hcase])]

theorem isLower_of_not_isCapital (h : isCapital c = false) : IsLower c := by
  obtain ⟨hdot, hall⟩ := Bool.or_eq_false_iff.1 h
  have hdot : c ≠ '\u0130' := by simpa using hdot
  have hnone : smallLetters.find? (·.covers c.toNat) = none :=
    List.find?_eq_none.2 (List.any_eq_false.1 hall)
  refine ⟨?_, ?_⟩
  · rintro rfl
    exact absurd h (by decide)
  · have hcase : c.isUpper = false := by
      rw [← Bool.not_eq_true]
      intro hupper
      have hcovers : CaseRange.covers ⟨0x41, 0x5A, 1, 32⟩ c.toNat = true := by
        simp [CaseRange.covers, Nat.mod_one, isUpper_bounds hupper]
      exact List.any_eq_false.1 hall _ List.mem_cons_self hcovers
    by_cases hc : c.toNat < 0x80
    · exact (isLower_of_ascii hc hcase).lowerChar_eq
    · rw [lowerChar, if_neg hc, if_neg hdot, hnone]

theorem toNat_ofNat_target {r : CaseRange} (hr : r ∈ smallLetters) {n : Nat}
    (hn : r.covers n = true) : (Char.ofNat (r.target n)).toNat = r.target n := by
  rw [Char.toNat_ofNat, if_pos (CaseRange.isValidChar_target (isProper_of_mem r hr) hn)]

theorem isLower_target {r : CaseRange} (hr : r ∈ smallLetters) {n : Nat}
    (hn : r.covers n = true) : IsLower (Char.ofNat (r.target n)) := by
  have hproper := isProper_of_mem r hr
  have htoNat := toNat_ofNat_target hr hn
  refine isLower_of_not_isCapital (Bool.or_eq_false_iff.2 ⟨?_, ?_⟩)
  · have hmissed := CaseRange.covers_target hproper (avoids_dotted r hr) hn
    rw [← htoNat] at hmissed
    rw [beq_eq_false_iff_ne]
    intro hdot
    rw [hdot] at hmissed
    exact absurd hmissed (by decide)
  · rw [htoNat]
    refine List.any_eq_false.2 fun s hs => ?_
    simp [CaseRange.covers_target hproper (avoids_of_mem r hr s hs) hn]

/-- What a character becomes is settled: the table says it of its letters, and the rest is few. -/
theorem isLower_of_mem_lowerChar (h : d ∈ lowerChar c) : IsLower d := by
  unfold lowerChar at h
  split at h
  · rename_i hc
    obtain rfl := List.mem_singleton.1 h
    exact isLower_of_ascii (toNat_toLower_lt hc) (Char.isUpper_toLower_eq_false c)
  · split at h
    · simp only [List.mem_cons, List.not_mem_nil, or_false] at h
      rcases h with rfl | rfl
      · exact isLower_of_ascii (by decide) (by decide)
      · exact isLower_of_not_isCapital (by decide +kernel)
    · rename_i hdot
      split at h
      · rename_i r hr
        obtain rfl := List.mem_singleton.1 h
        have hn : r.covers c.toNat = true := by simpa using List.find?_some hr
        exact isLower_target (List.mem_of_find?_eq_some hr) hn
      · rename_i hnone
        obtain rfl := List.mem_singleton.1 h
        exact isLower_of_not_isCapital (Bool.or_eq_false_iff.2
          ⟨by simpa using hdot, List.any_eq_false.2 (List.find?_eq_none.1 hnone)⟩)

/-- Signs and digits of ASCII come of themselves only. -/
theorem eq_of_mem_lowerChar (h : d ∈ lowerChar c) (hd : d.toNat < 97) : d = c := by
  unfold lowerChar at h
  split at h
  · obtain rfl := List.mem_singleton.1 h
    by_cases hcase : c.isUpper = true
    · have hbounds := isUpper_bounds hcase
      rw [toNat_toLower_of_isUpper hcase] at hd
      omega
    · exact Char.toLower_eq_of_not_isUpper hcase
  · split at h
    · simp only [List.mem_cons, List.not_mem_nil, or_false] at h
      rcases h with rfl | rfl <;> exact absurd hd (by decide)
    · split at h
      · rename_i r hr
        have hmem := List.mem_of_find?_eq_some hr
        have hn : r.covers c.toNat = true := by simpa using List.find?_some hr
        have hlow := CaseRange.le_target (isProper_of_mem r hmem) hn
        rw [List.mem_singleton.1 h] at hd
        exact absurd ((toNat_ofNat_target hmem hn).symm.trans_lt hd) (by omega)
      · exact List.mem_singleton.1 h

/-- The case of a letter of ASCII does not matter. -/
theorem lowerChar_toLower (c : Char) : lowerChar c.toLower = lowerChar c := by
  by_cases hcase : c.isUpper = true
  · have hc : c.toNat < 0x80 := by
      have := isUpper_bounds hcase
      omega
    rw [lowerChar, lowerChar, if_pos (toNat_toLower_lt hc), if_pos hc,
      Char.toLower_toLower_eq_toLower]
  · rw [Char.toLower_eq_of_not_isUpper hcase]

theorem lowerChar_ne_nil (c : Char) : lowerChar c ≠ [] := by
  unfold lowerChar
  split
  · simp
  · split
    · simp
    · split <;> simp

/-! ## Texts -/

/-- What a character of a text becomes: its place counts for the capital sigma only. -/
def smallAt (before : List Char) (c : Char) (rest : List Char) : List Char :=
  if c = 'Σ' then [smallSigma before rest] else lowerChar c

section

variable {before cs : List Char}

theorem lowerFrom_cons : lowerFrom before (c :: cs) =
    smallAt before c cs ++ lowerFrom (c :: before) cs := rfl

/-- Both small sigmas are settled. -/
theorem smallSigma_spec (before rest : List Char) :
    IsLower (smallSigma before rest) ∧ 97 ≤ (smallSigma before rest).toNat := by
  unfold smallSigma
  split <;> exact ⟨isLower_of_not_isCapital (by decide +kernel), by decide⟩

theorem smallAt_ne_nil (before : List Char) (c : Char) (cs : List Char) :
    smallAt before c cs ≠ [] := by
  unfold smallAt
  split
  · simp
  · exact lowerChar_ne_nil c

theorem isLower_of_mem_smallAt (h : d ∈ smallAt before c cs) : IsLower d := by
  unfold smallAt at h
  split at h
  · rw [List.mem_singleton.1 h]
    exact (smallSigma_spec before cs).1
  · exact isLower_of_mem_lowerChar h

theorem eq_of_mem_smallAt (h : d ∈ smallAt before c cs) (hd : d.toNat < 97) : d = c := by
  unfold smallAt at h
  split at h
  · have hsigma := (smallSigma_spec before cs).2
    rw [List.mem_singleton.1 h] at hd
    omega
  · exact eq_of_mem_lowerChar h hd

theorem smallAt_of_isLower (h : IsLower c) : smallAt before c cs = [c] := by
  rw [smallAt, if_neg h.ne_sigma, h.lowerChar_eq]

theorem isLower_of_mem_lowerFrom : ∀ {cs before : List Char}, d ∈ lowerFrom before cs → IsLower d
  | c :: cs, before, h => by
    rw [lowerFrom_cons] at h
    rcases List.mem_append.1 h with h | h
    · exact isLower_of_mem_smallAt h
    · exact isLower_of_mem_lowerFrom h

theorem lowerFrom_of_isLower : ∀ {cs : List Char}, (∀ c ∈ cs, IsLower c) → ∀ before,
    lowerFrom before cs = cs
  | [], _, _ => rfl
  | c :: cs, h, before => by
    obtain ⟨hc, hcs⟩ := List.forall_mem_cons.1 h
    rw [lowerFrom_cons, smallAt_of_isLower hc, lowerFrom_of_isLower hcs]
    rfl

/-- A text is made of some settled signs exactly if its lower case is. -/
theorem forall_mem_lowerFrom (hp : ∀ c, p c → c.toNat < 97 ∧ IsLower c) : ∀ {cs before : List Char},
    (∀ d ∈ lowerFrom before cs, p d) ↔ ∀ c ∈ cs, p c
  | [], _ => by simp [lowerFrom]
  | c :: cs, before => by
    have hfirst : (∀ d ∈ smallAt before c cs, p d) ↔ p c := by
      constructor
      · intro h
        obtain ⟨d, hd⟩ := List.exists_mem_of_ne_nil _ (smallAt_ne_nil before c cs)
        obtain rfl := eq_of_mem_smallAt hd (hp d (h d hd)).1
        exact h d hd
      · intro h d hd
        rw [smallAt_of_isLower (hp c h).2] at hd
        rwa [List.mem_singleton.1 hd]
    rw [lowerFrom_cons, List.forall_mem_append, hfirst, forall_mem_lowerFrom hp,
      List.forall_mem_cons]

end

variable {s : String}

theorem isLower_of_mem_lowercase (h : d ∈ (lowercase s).toList) : IsLower d := by
  rw [lowercase, String.toList_ofList] at h
  exact isLower_of_mem_lowerFrom h

theorem lowercase_of_isLower (h : ∀ c ∈ s.toList, IsLower c) : lowercase s = s := by
  rw [lowercase, lowerFrom_of_isLower h, String.ofList_toList]

theorem lowercase_lowercase (s : String) : lowercase (lowercase s) = lowercase s :=
  lowercase_of_isLower fun _ => isLower_of_mem_lowercase

theorem forall_mem_lowercase (hp : ∀ c, p c → c.toNat < 97 ∧ IsLower c) :
    (∀ d ∈ (lowercase s).toList, p d) ↔ ∀ c ∈ s.toList, p c := by
  rw [lowercase, String.toList_ofList]
  exact forall_mem_lowerFrom hp

end MysqlMetrics.Text
