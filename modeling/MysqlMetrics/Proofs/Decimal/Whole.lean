import MysqlMetrics.Decimal.Whole
/-!
# Whole numbers read back

The digits of a number are read as that number (`readDigits_toDigits`), and so a number in the range
of 64 bits with a sign is read from the text that writes it (`readI64_toString`). Nothing else is
read: without a minus sign, a text is taken exactly if it writes a number in range
(`readNat_eq_ok`).
-/
namespace MysqlMetrics.Decimal

variable {limit : Nat} {overflow : WholeError}

theorem le_ofDigitChars (cs : List Char) (n : Nat) : n ≤ Nat.ofDigitChars 10 cs n := by
  rw [Nat.ofDigitChars_eq_ofDigitChars_zero]
  have hpow : 1 ≤ 10 ^ cs.length := Nat.one_le_pow _ _ (by decide)
  have := Nat.mul_le_mul_right n hpow
  omega

/-- Digits are read as the number they write, unless it is out of range. -/
theorem readDigits_eq_ok : ∀ {cs : List Char} {n : Nat}, (∀ c ∈ cs, c.isDigit = true) →
    Nat.ofDigitChars 10 cs n ≤ limit →
      readDigits limit overflow n cs = .ok (Nat.ofDigitChars 10 cs n)
  | [], n, _, _ => rfl
  | c :: cs, n, hd, hle => by
    obtain ⟨hc, hcs⟩ := List.forall_mem_cons.1 hd
    rw [Nat.ofDigitChars_cons] at hle ⊢
    have hn : 10 * n + (c.toNat - 48) ≤ limit := Nat.le_trans (le_ofDigitChars cs _) hle
    have ih := readDigits_eq_ok hcs hle
    simpa [readDigits, hc, hn] using ih

theorem readDigits_toDigits (overflow : WholeError) {n : Nat} (h : n ≤ limit) :
    readDigits limit overflow 0 (Nat.toDigits 10 n) = .ok n := by
  have hd : ∀ c ∈ Nat.toDigits 10 n, c.isDigit = true := fun c hc =>
    Nat.isDigit_of_mem_toDigits (by decide) (by decide) hc
  have hn : Nat.ofDigitChars 10 (Nat.toDigits 10 n) 0 = n := Nat.ofDigitChars_ten_toDigits
  rw [readDigits_eq_ok hd (by rw [hn]; exact h), hn]

/-- The first digit of a number is no sign. -/
theorem exists_toDigits (n : Nat) :
    ∃ c cs, Nat.toDigits 10 n = c :: cs ∧ c ≠ '+' ∧ c ≠ '-' := by
  cases h : Nat.toDigits 10 n with
  | nil => exact absurd h Nat.toDigits_ne_nil
  | cons c cs =>
    have hc : c.isDigit = true :=
      Nat.isDigit_of_mem_toDigits (by decide) (by decide) (h ▸ List.mem_cons_self)
    refine ⟨c, cs, rfl, ?_, ?_⟩ <;> rintro rfl <;> exact absurd hc (by decide)

theorem readInt_plain {s : String} {c : Char} {cs : List Char} (hs : s.toList = c :: cs)
    (hplus : c ≠ '+') (hminus : c ≠ '-') :
    readInt limit s = (readDigits limit .tooLarge 0 (c :: cs)).map Int.ofNat := by
  simp [readInt, hs, hplus, hminus]

theorem readInt_minus {s : String} {c : Char} {cs : List Char} (hs : s.toList = '-' :: c :: cs) :
    readInt limit s = (readDigits (limit + 1) .tooSmall 0 (c :: cs)).map fun n => -(n : Int) := by
  simp [readInt, hs]

theorem readInt_toString {i : Int} (hlo : -(limit : Int) - 1 ≤ i) (hhi : i ≤ limit) :
    readInt limit (toString i) = .ok i := by
  rw [Int.toString_eq_repr, Int.repr_eq_if]
  by_cases hi : 0 ≤ i
  · obtain ⟨c, cs, hds, hplus, hminus⟩ := exists_toDigits i.toNat
    have hread := readDigits_toDigits .tooLarge (show i.toNat ≤ limit by omega)
    rw [if_pos hi, readInt_plain (Nat.toList_repr.trans hds) hplus hminus, ← hds, hread]
    exact congrArg Except.ok (Int.toNat_of_nonneg hi)
  · obtain ⟨c, cs, hds, -, -⟩ := exists_toDigits (-i).toNat
    have hread := readDigits_toDigits .tooSmall (show (-i).toNat ≤ limit + 1 by omega)
    have hs : ("-" ++ (-i).toNat.repr).toList = '-' :: c :: cs := by
      rw [String.toList_append, Nat.toList_repr, hds]
      rfl
    rw [if_neg hi, readInt_minus hs, ← hds, hread]
    exact congrArg Except.ok (show -((-i).toNat : Int) = i by omega)

theorem readI64_toString {i : Int} (hlo : -9223372036854775808 ≤ i)
    (hhi : i ≤ 9223372036854775807) : readI64 (toString i) = .ok i :=
  readInt_toString (by simp only [maxI64]; omega) (by simp only [maxI64]; omega)

/-! ## Without a minus sign -/

/-- A text that writes a number: digits, and a plus sign may stand in front. -/
def Writes (s : String) (n : Nat) : Prop :=
  ∃ ds, (s.toList = ds ∨ s.toList = '+' :: ds) ∧ ds ≠ [] ∧ (∀ c ∈ ds, c.isDigit = true) ∧
    Nat.ofDigitChars 10 ds 0 = n

variable {n m : Nat} {s : String}

/-- Nothing but digits is read, and only as far as the limit. -/
theorem of_readDigits_eq_ok : ∀ {cs : List Char} {n : Nat}, n ≤ limit →
    readDigits limit overflow n cs = .ok m →
      (∀ c ∈ cs, c.isDigit = true) ∧ Nat.ofDigitChars 10 cs n = m ∧ m ≤ limit
  | [], n, hn, h => by
    cases h
    exact ⟨by simp, rfl, hn⟩
  | c :: cs, n, hn, h => by
    unfold readDigits at h
    by_cases hc : c.isDigit = true
    · by_cases hle : 10 * n + (c.toNat - 48) ≤ limit
      · have hrest : readDigits limit overflow (10 * n + (c.toNat - 48)) cs = .ok m := by
          simpa [hc, hle] using h
        obtain ⟨hd, hm, hlimit⟩ := of_readDigits_eq_ok hle hrest
        exact ⟨List.forall_mem_cons.2 ⟨hc, hd⟩, by rw [Nat.ofDigitChars_cons]; exact hm, hlimit⟩
      · simp [hc, hle] at h
    · simp [hc] at h

theorem readDigits_eq_ok_iff {cs : List Char} : readDigits limit overflow 0 cs = .ok n ↔
    (∀ c ∈ cs, c.isDigit = true) ∧ Nat.ofDigitChars 10 cs 0 = n ∧ n ≤ limit := by
  refine ⟨of_readDigits_eq_ok (Nat.zero_le _), fun ⟨hd, hn, hle⟩ => ?_⟩
  rw [readDigits_eq_ok hd (hn ▸ hle), hn]

/-- What is read is what is written, if the range has it. -/
theorem readNat_eq_ok : readNat limit s = .ok n ↔ Writes s n ∧ n ≤ limit := by
  have hplus : ¬ ('+' : Char).isDigit = true := by decide
  unfold readNat Writes
  split
  case h_1 hs => simp [hs]
  case h_2 hs => simp [hs, hplus]
  case h_3 cs hne hs =>
    rw [readDigits_eq_ok_iff]
    constructor
    · rintro ⟨hd, hn, hle⟩
      exact ⟨⟨cs, .inr hs, hne, hd, hn⟩, hle⟩
    · rintro ⟨⟨ds, hds | hds, -, hd, hn⟩, hle⟩
      · rw [hs] at hds
        exact absurd (hd '+' (hds ▸ List.mem_cons_self)) hplus
      · rw [hs] at hds
        cases hds
        exact ⟨hd, hn, hle⟩
  case h_4 hne _ hplain =>
    rw [readDigits_eq_ok_iff]
    constructor
    · rintro ⟨hd, hn, hle⟩
      exact ⟨⟨_, .inl rfl, hne, hd, hn⟩, hle⟩
    · rintro ⟨⟨ds, hds | hds, -, hd, hn⟩, hle⟩
      · exact hds ▸ ⟨hd, hn, hle⟩
      · exact absurd hds (hplain ds)

theorem writes_repr (n : Nat) : Writes n.repr n :=
  ⟨Nat.toDigits 10 n, .inl Nat.toList_repr, Nat.toDigits_ne_nil, fun _ hc =>
    Nat.isDigit_of_mem_toDigits (by decide) (by decide) hc, Nat.ofDigitChars_ten_toDigits⟩

end MysqlMetrics.Decimal
