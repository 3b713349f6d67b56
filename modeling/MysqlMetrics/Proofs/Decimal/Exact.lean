import Mathlib
import MysqlMetrics.Decimal.Binary64
/-!
# Whole numbers as doubles

A whole number below `2 ^ 53` is a double: its binary digits fill the mantissa from the left
(`wholeParts`). The sum of two is computed at the smaller of their exponents and is held with no
more digits than fit again, so whole doubles add up exactly as long as the sum stays below `2 ^ 53`
(`ofNat_add`).
-/
namespace MysqlMetrics.Decimal

open Float.Model (Format UnpackedFloat totalExponent)
open Float.Model.UnpackedFloat

variable {m n k : Nat}

/-! ## Mantissas -/

/-- How far a whole number is moved to the left end of a mantissa. -/
def places (n : Nat) : Nat := 52 - n.log2

theorem log2_le (h0 : n ≠ 0) (h : n < 2 ^ 53) : n.log2 ≤ 52 := by
  have := (Nat.log2_lt h0).2 h
  omega

/-- Moved to the left, a whole number fills the mantissa. -/
theorem mantissa_bounds (h0 : n ≠ 0) (h : n < 2 ^ 53) :
    2 ^ 52 ≤ n * 2 ^ places n ∧ n * 2 ^ places n < 2 ^ 53 := by
  have hle := log2_le h0 h
  have hlow := Nat.mul_le_mul_right (2 ^ places n) (Nat.log2_self_le h0)
  have hhigh := Nat.mul_lt_mul_of_pos_right (Nat.lt_log2_self (n := n)) (Nat.two_pow_pos (places n))
  rw [← Nat.pow_add] at hlow hhigh
  have h52 : n.log2 + places n = 52 := by unfold places; omega
  have h53 : n.log2 + 1 + places n = 53 := by unfold places; omega
  rw [h52] at hlow
  rw [h53] at hhigh
  exact ⟨hlow, hhigh⟩

theorem log2_mantissa (hlow : 2 ^ 52 ≤ m) (hhigh : m < 2 ^ 53) : m.log2 = 52 :=
  (Nat.log2_eq_iff (by omega)).2 ⟨hlow, hhigh⟩

theorem log2_mul_two_pow (h0 : n ≠ 0) (k : Nat) : (n * 2 ^ k).log2 = n.log2 + k := by
  have hpos : n * 2 ^ k ≠ 0 := Nat.mul_ne_zero h0 (Nat.two_pow_pos k).ne'
  have hlow := Nat.mul_le_mul_right (2 ^ k) (Nat.log2_self_le h0)
  have hhigh := Nat.mul_lt_mul_of_pos_right (Nat.lt_log2_self (n := n)) (Nat.two_pow_pos k)
  rw [← Nat.pow_add] at hlow hhigh
  exact (Nat.log2_eq_iff hpos).2 ⟨hlow, by rwa [Nat.add_right_comm] at hhigh⟩

/-! ## Doubles and their parts -/

/-- A whole number below `2 ^ 53`, taken apart. -/
def wholeParts (n : Nat) : UnpackedFloat :=
  if h : n = 0 then .zero .positive
  else .finite .positive (n * 2 ^ places n) (-(places n : Int)) (by positivity)

theorem wholeParts_of_ne (h : n ≠ 0) : wholeParts n =
    .finite .positive (n * 2 ^ places n) (-(places n : Int)) (by positivity) := dif_neg h

/-- The parts of a positive normal double, read off its three fields. -/
theorem unpack_of_fields {b : BitVec 64} {e k : Nat}
    (hmantissa : (@unpackMantissa Format.binary64 b).toNat = k)
    (hexponent : (@unpackExponent Format.binary64 b).toNat = e)
    (hsign : @unpackSign Format.binary64 b = 0#1) (he : 0 < e) (he' : e < 2047) :
    unpack Format.binary64 b = .finite .positive (2 ^ 52 + k) ((e : Int) - 1075) (by omega) := by
  have htop : @unpackExponent Format.binary64 b ≠ -1#_ := fun h => by
    rw [h] at hexponent
    simp at hexponent
    omega
  have hzero : @unpackExponent Format.binary64 b ≠ 0#_ := fun h => by
    rw [h] at hexponent
    simp at hexponent
    omega
  unfold unpack
  simp only [if_neg htop, if_neg hzero, UnpackedFloat.finite.injEq, hsign, hexponent]
  refine ⟨rfl, ?_, ?_⟩
  · have hk : k < 2 ^ 52 := hmantissa ▸ BitVec.isLt _
    rw [BitVec.toNat_append, hmantissa]
    exact (Nat.two_pow_add_eq_or_of_lt hk 1).symm
  · have hbias : (Format.binary64.exponentBias : Int) + (52 : Nat) = 1075 := by decide
    exact congrArg (fun c => (e : Int) - c) hbias

/-- The fields of a double, by its bits. -/
theorem toNat_unpackMantissa (b : BitVec 64) :
    (@unpackMantissa Format.binary64 b).toNat = b.toNat % 2 ^ 52 := by
  simp [unpackMantissa]

theorem toNat_unpackExponent (b : BitVec 64) :
    (@unpackExponent Format.binary64 b).toNat = b.toNat / 2 ^ 52 % 2048 := by
  simp [unpackExponent, Nat.shiftRight_eq_div_pow]

theorem toNat_unpackSign (b : BitVec 64) :
    (@unpackSign Format.binary64 b).toNat = b.toNat / 2 ^ 63 := by
  have hb := b.isLt
  simp only [unpackSign, BitVec.toNat_cast, BitVec.extractLsb_toNat, Nat.shiftRight_eq_div_pow]
  simp
  omega

/-- The parts of a positive normal double, read off its bits. -/
theorem unpack_of_toNat {b : BitVec 64} {e : Nat} (hb : b.toNat = e * 2 ^ 52 + k) (he : 0 < e)
    (he' : e < 2047) (hk : k < 2 ^ 52) :
    unpack Format.binary64 b = .finite .positive (2 ^ 52 + k) ((e : Int) - 1075) (by omega) := by
  refine unpack_of_fields ?_ ?_ ?_ he he'
  · rw [toNat_unpackMantissa]
    omega
  · rw [toNat_unpackExponent]
    omega
  · apply BitVec.eq_of_toNat_eq
    rw [toNat_unpackSign, BitVec.toNat_ofNat]
    omega

theorem scaleTwo_nonpos (num den k : Nat) :
    scaleTwo num den (-(k : Int)) = (num * 2 ^ k, den) := by
  cases k with
  | zero => simp [scaleTwo]
  | succ k => rw [← Nat.shiftLeft_eq]; rfl

theorem floorLog2_one (h0 : n ≠ 0) : floorLog2 n 1 = n.log2 := by
  have hzero : (1 : Nat).log2 = 0 := by decide
  have hself : 1 <<< n.log2 ≤ n := by
    rw [Nat.one_shiftLeft]
    exact Nat.log2_self_le h0
  simp [floorLog2, hzero, scaleTwo, hself]

/-- The bits of a whole number below `2 ^ 53` are those of its mantissa. -/
theorem nearestBits_one (h0 : n ≠ 0) (h : n < 2 ^ 53) :
    nearestBits n 1 = (1074 - places n) * 2 ^ 52 + n * 2 ^ places n := by
  have hle := log2_le h0 h
  obtain ⟨-, hhigh⟩ := mantissa_bounds h0 h
  have he : max ((n.log2 : Int) - 52) (-1074) = -(places n : Int) := by
    unfold places
    omega
  have hround : roundHalfEven (n * 2 ^ places n) 1 = n * 2 ^ places n := by
    simp [roundHalfEven, Nat.mod_one]
  have hinfinity : infinityBits = 2047 * 2 ^ 52 := by decide
  rw [nearestBits, if_neg h0, floorLog2_one h0, he]
  dsimp only
  rw [scaleTwo_nonpos, hround, Nat.shiftLeft_eq, hinfinity]
  have hexponent : (-(places n : Int) + 1074).toNat = 1074 - places n := by omega
  rw [hexponent]
  refine Nat.min_eq_left ?_
  omega

theorem unpackSign_packComponents {spec : Format} {sign exponent mantissa} :
    unpackSign (packComponents spec sign exponent mantissa) = sign.toBitVec := by
  ext i hi
  obtain rfl : i = 0 := by omega
  simp [unpackSign, packComponents, BitVec.getElem_append, Nat.add_comm]

/-- Packed and taken apart again, a whole number is the same. -/
theorem unpack_pack_wholeParts (h : n < 2 ^ 53) :
    unpack Format.binary64 (pack Format.binary64 (wholeParts n)) = wholeParts n := by
  by_cases h0 : n = 0
  · subst h0
    rfl
  · have hplaces : places n ≤ 52 := Nat.sub_le _ _
    obtain ⟨hlow, hhigh⟩ := mantissa_bounds h0 h
    have hexponent : (-(places n : Int) + Format.binary64.exponentBias + (52 : Nat)).toNat =
        1075 - places n := by
      have hbias : Format.binary64.exponentBias = 1023 := by decide
      omega
    rw [wholeParts_of_ne h0]
    simp only [pack]
    rw [hexponent, if_neg (by simp; omega), if_pos (by rw [log2_mantissa hlow hhigh]; rfl)]
    rw [unpack_of_fields (k := n * 2 ^ places n - 2 ^ 52) (e := 1075 - places n) ?_ ?_ ?_
      (by omega) (by omega)]
    · rw [UnpackedFloat.finite.injEq]
      exact ⟨rfl, by omega, by omega⟩
    · rw [unpackMantissa_packComponents, BitVec.toNat_ofNat]
      dsimp only
      omega
    · rw [unpackExponent_packComponents, BitVec.toNat_ofNat]
      dsimp only
      omega
    · exact unpackSign_packComponents

theorem toModel_ofNat (h : n < 2 ^ 53) : (ofNat n).toModel = Float.Model.pack (wholeParts n) := by
  by_cases h0 : n = 0
  · subst h0
    decide
  · have hplaces : places n ≤ 52 := Nat.sub_le _ _
    obtain ⟨hlow, hhigh⟩ := mantissa_bounds h0 h
    have hbits : (nearestBits n 1).toUInt64.toBitVec.toNat =
        (1075 - places n) * 2 ^ 52 + (n * 2 ^ places n - 2 ^ 52) := by
      have hword : (nearestBits n 1).toUInt64.toBitVec.toNat = nearestBits n 1 % 2 ^ 64 := rfl
      rw [hword, nearestBits_one h0 h]
      omega
    have hunpack : unpack Format.binary64 (nearestBits n 1).toUInt64.toBitVec = wholeParts n := by
      rw [unpack_of_toNat hbits (by omega) (by omega) (by omega), wholeParts_of_ne h0,
        UnpackedFloat.finite.injEq]
      exact ⟨rfl, by omega, by omega⟩
    exact congrArg Float.Model.pack hunpack

theorem unpack_ofNat (h : n < 2 ^ 53) : (ofNat n).toModel.unpack = wholeParts n := by
  rw [toModel_ofNat h]
  exact unpack_pack_wholeParts h

/-! ## Sums -/

/-- Digits that are zero are shifted out without a trace. -/
theorem shiftRight_exact (m k : Nat) :
    (⟨m * 2 ^ k, false, false⟩ : ExtendedMantissa) >>> k = ⟨m, false, false⟩ := by
  change Nat.repeat ExtendedMantissa.shiftRightOne k ⟨m * 2 ^ k, false, false⟩ = _
  induction k generalizing m with
  | zero => simp [Nat.repeat]
  | succ k ih =>
    rw [Nat.repeat, Nat.pow_succ, Nat.mul_comm (2 ^ k), ← Nat.mul_assoc, ih]
    simp [ExtendedMantissa.shiftRightOne]

/-- The exponent a whole number has as a double, however it is held. -/
theorem targetExponent_whole (h0 : n ≠ 0) (h : n < 2 ^ 53) (t : Nat) :
    Format.binary64.targetExponent (totalExponent (n * 2 ^ t) (-(t : Int))) =
      -(places n : Int) := by
  have hle := log2_le h0 h
  have hbits : Format.binary64.mantissaBits = 53 := by decide
  have hleast : Format.binary64.minExponent = -1074 := by decide
  rw [Format.targetExponent, totalExponent, log2_mul_two_pow h0, hbits, hleast]
  unfold places
  omega

/-- Held with more zeros than it needs, a whole number loses just these. -/
theorem shiftToTargetExponent_whole (h0 : n ≠ 0) (h : n < 2 ^ 53) {t : Nat} (ht : places n ≤ t) :
    shiftToTargetExponent Format.binary64 (n * 2 ^ t) (-(t : Int)) .exact =
      (⟨n * 2 ^ places n, false, false⟩, -(places n : Int)) := by
  obtain ⟨k, rfl⟩ := Nat.exists_eq_add_of_le ht
  have hk : (-(places n : Int) - -((places n + k : Nat) : Int)).toNat = k := by omega
  rw [shiftToTargetExponent, targetExponent_whole h0 h, shiftToExponent, hk, Nat.pow_add,
    ← Nat.mul_assoc]
  exact Prod.ext (shiftRight_exact _ k) (by dsimp only; omega)

theorem round_whole (h0 : n ≠ 0) (h : n < 2 ^ 53) {t : Nat} (ht : places n ≤ t) :
    round Format.binary64 .positive (n * 2 ^ t) (-(t : Int)) = wholeParts n := by
  have hkeep : decreaseExponent (n * 2 ^ t) (-(t : Int)) (-(places n : Int)) =
      (n * 2 ^ t, -(t : Int)) := by
    have hnone : (-(t : Int) - -(places n : Int)).toNat = 0 := by omega
    rw [decreaseExponent, hnone]
    simp
  have hpos : n * 2 ^ places n ≠ 0 := Nat.mul_ne_zero h0 (Nat.two_pow_pos _).ne'
  rw [UnpackedFloat.round, targetExponent_whole h0 h, hkeep]
  dsimp only
  rw [roundWithAccuracy, shiftToTargetExponent_whole h0 h ht]
  dsimp only [ExtendedMantissa.roundedMantissa, ExtendedMantissa.accuracy,
    Accuracy.roundToNearestEven]
  rw [shiftToTargetExponent_whole h0 h le_rfl, dif_neg hpos, wholeParts_of_ne h0]

theorem decreaseExponent_whole (n : Nat) {k t : Nat} (hk : k ≤ t) :
    decreaseExponent (n * 2 ^ k) (-(k : Int)) (-(t : Int)) = (n * 2 ^ t, -(t : Int)) := by
  obtain ⟨d, rfl⟩ := Nat.exists_eq_add_of_le hk
  have hd : (-(k : Int) - -((k + d : Nat) : Int)).toNat = d := by omega
  rw [decreaseExponent, hd, Nat.shiftLeft_eq, Nat.pow_add, ← Nat.mul_assoc]
  exact Prod.ext rfl (by dsimp only; omega)

/-- A larger number is moved less. -/
theorem places_anti (h0 : m ≠ 0) (h : m ≤ n) : places n ≤ places m := by
  have hlog : m.log2 ≤ n.log2 := (Nat.le_log2 (by omega)).2 ((Nat.log2_self_le h0).trans h)
  unfold places
  omega

theorem add_wholeParts (h : m + n < 2 ^ 53) :
    UnpackedFloat.add Format.binary64 (wholeParts m) (wholeParts n) = wholeParts (m + n) := by
  by_cases hm : m = 0
  · subst hm
    rw [Nat.zero_add]
    by_cases hn : n = 0
    · subst hn
      rfl
    · rw [wholeParts_of_ne hn]
      rfl
  by_cases hn : n = 0
  · subst hn
    rw [Nat.add_zero, wholeParts_of_ne hm]
    rfl
  have h0 : m + n ≠ 0 := by omega
  have hsmaller : min (-(places m : Int)) (-(places n : Int)) =
      -((max (places m) (places n) : Nat) : Int) := by omega
  rw [wholeParts_of_ne hm, wholeParts_of_ne hn]
  simp only [UnpackedFloat.add, hsmaller]
  rw [decreaseExponent_whole m (Nat.le_max_left _ _),
    decreaseExponent_whole n (Nat.le_max_right _ _)]
  have hsum : Sign.positive.apply ((m * 2 ^ max (places m) (places n) : Nat) : Int) +
      Sign.positive.apply ((n * 2 ^ max (places m) (places n) : Nat) : Int) =
      (((m + n) * 2 ^ max (places m) (places n) : Nat) : Int) := by
    rw [Nat.add_mul]
    rfl
  dsimp only
  rw [hsum]
  have hgt : compare (((m + n) * 2 ^ max (places m) (places n) : Nat) : Int) 0 = .gt := by
    rw [compare_gt_iff_gt]
    have := Nat.mul_pos (Nat.pos_of_ne_zero h0) (Nat.two_pow_pos (max (places m) (places n)))
    omega
  rw [UnpackedFloat.normalize, hgt]
  dsimp only
  rw [Int.toNat_natCast]
  refine round_whole h0 h ?_
  have := places_anti hm (Nat.le_add_right m n)
  omega

theorem add_wholeParts_zero (m : Nat) (s : Sign) :
    UnpackedFloat.add Format.binary64 (wholeParts m) (.zero s) = wholeParts m := by
  by_cases hm : m = 0
  · subst hm
    cases s <;> rfl
  · rw [wholeParts_of_ne hm]
    rfl

/-- Only a zero compares equal to zero. -/
theorem eq_zero_of_compare {p : UnpackedFloat} (h : p.compare (.zero .positive) = some .eq) :
    ∃ s, p = .zero s := by
  cases p with
  | zero s => exact ⟨s, rfl⟩
  | finite s _ _ _ => cases s <;> cases h
  | infinity s => cases s <;> cases h
  | notANumber => cases h

theorem eq_of_compare {p : UnpackedFloat} {k : Nat} {e : Int} {hk : 0 < k}
    (h : p.compare (.finite .positive k e hk) = some .eq) : p = .finite .positive k e hk := by
  cases p with
  | finite s _ _ _ =>
    cases s with
    | negative => cases h
    | positive =>
      obtain ⟨rfl, rfl⟩ := by simpa [UnpackedFloat.compare] using h
      rfl
  | zero s => cases h
  | infinity s => cases s <;> cases h
  | notANumber => cases h

/-- A double that is a whole number: as a zero, of either sign. -/
def IsWhole (x : Float) (n : Nat) : Prop := (x == ofNat n) = true

instance {x : Float} : Decidable (IsWhole x n) := inferInstanceAs (Decidable (_ = true))

/-- Its parts are known but for the sign of a zero. -/
theorem IsWhole.unpack {x : Float} (hx : IsWhole x n) (h : n < 2 ^ 53) :
    x.toModel.unpack = wholeParts n ∨ n = 0 ∧ ∃ s, x.toModel.unpack = .zero s := by
  have hcompare : x.toModel.unpack.compare (wholeParts n) = some .eq := by
    rw [← unpack_ofNat h]
    exact beq_iff_eq.1 hx
  by_cases h0 : n = 0
  · subst h0
    exact .inr ⟨rfl, eq_zero_of_compare hcompare⟩
  · rw [wholeParts_of_ne h0] at hcompare ⊢
    exact .inl (eq_of_compare hcompare)

/-- **Doubles add up exactly** as long as the sum stays below `2 ^ 53`. -/
theorem ofNat_add {x : Float} (hx : IsWhole x n) (h : m + n < 2 ^ 53) :
    ofNat m + x = ofNat (m + n) := by
  have hsum : UnpackedFloat.add Format.binary64 (wholeParts m) x.toModel.unpack =
      wholeParts (m + n) := by
    rcases hx.unpack (by omega) with hp | ⟨rfl, s, hp⟩
    · rw [hp, add_wholeParts h]
    · rw [hp, add_wholeParts_zero, Nat.add_zero]
  have hmodel : (ofNat m + x).toModel = (ofNat (m + n)).toModel := by
    change Float.Model.pack (UnpackedFloat.add _ (ofNat m).toModel.unpack x.toModel.unpack) = _
    rw [unpack_ofNat (by omega), hsum, toModel_ofNat h]
  exact congrArg Float.ofModel hmodel

end MysqlMetrics.Decimal
