import MysqlMetrics.Duration
import MysqlMetrics.Proofs.Decimal.Exact
/-!
# What doubles are worth

A double that is no infinity and not undefined is a rational number (`value?`), and its parts say
which (`value?_of_exactParts`). Scaling and rounding are told by the number that they are done to
(`quotient_scaleTwo`, `isNearest_roundHalfEven`), so a span is made of every number of seconds in
range, and of no other, and it is the nearest one (`trySeconds_of_value`,
`exists_value_of_trySeconds`).
-/
namespace MysqlMetrics

namespace Decimal

open Float.Model (Format UnpackedFloat)
open Float.Model.UnpackedFloat

variable {x : Float} {q r : ℚ} {n num den : Nat}

/-! ## Values -/

/-- The number that the parts make up. -/
def quantity? : UnpackedFloat → Option ℚ
  | .zero _ => some 0
  | .finite .positive m e _ => some (m * 2 ^ e)
  | .finite .negative m e _ => some (-(m * 2 ^ e))
  | .infinity _ | .notANumber => none

/-- The number that a double is. -/
def value? (x : Float) : Option ℚ := quantity? x.toModel.unpack

theorem value_cases (h : value? x = some q) :
    (q = 0 ∧ ∃ s, x.toModel.unpack = .zero s) ∨
    (0 < q ∧ ∃ m e hm, x.toModel.unpack = .finite .positive m e hm ∧ q = m * 2 ^ e) ∨
    (q < 0 ∧ ∃ m e hm, x.toModel.unpack = .finite .negative m e hm) := by
  unfold value? at h
  cases hp : x.toModel.unpack with
  | infinity s => rw [hp] at h; cases h
  | notANumber => rw [hp] at h; cases h
  | zero s =>
    obtain rfl : 0 = q := by simpa [hp, quantity?] using h
    exact .inl ⟨rfl, s, rfl⟩
  | finite s m e hm =>
    have hpos : (0 : ℚ) < m * 2 ^ e := by positivity
    cases s with
    | positive =>
      obtain rfl : m * 2 ^ e = q := by simpa [hp, quantity?] using h
      exact .inr (.inl ⟨hpos, m, e, hm, rfl, rfl⟩)
    | negative =>
      obtain rfl : -(m * 2 ^ e) = q := by simpa [hp, quantity?] using h
      exact .inr (.inr ⟨neg_neg_of_pos hpos, m, e, hm, rfl⟩)

/-- A double is above zero if its number is. -/
theorem ofNat_zero_lt (h : value? x = some q) : ofNat 0 < x ↔ 0 < q := by
  have hlt : ofNat 0 < x ↔ (ofNat 0).toModel.unpack.compare x.toModel.unpack = some .lt := by
    change decide ((ofNat 0).toModel.unpack.lt x.toModel.unpack = true) = true ↔ _
    rw [decide_eq_true_iff, UnpackedFloat.lt, beq_iff_eq]
  have hzero : wholeParts 0 = .zero .positive := rfl
  rw [hlt, unpack_ofNat (by decide), hzero]
  rcases value_cases h with ⟨rfl, s, hp⟩ | ⟨hpos, m, e, hm, hp, -⟩ | ⟨hneg, m, e, hm, hp⟩
  · simp [hp, UnpackedFloat.compare]
  · simp [hp, UnpackedFloat.compare, hpos]
  · simp [hp, UnpackedFloat.compare, hneg.le]

/-! ## Parts -/

def Sign.isNegative : Sign → Bool
  | .negative => true
  | .positive => false

/-- The same parts, with the mantissa and the exponent of a zero spelled out. -/
def partsOf : UnpackedFloat → Parts
  | .infinity s => .infinite (Sign.isNegative s)
  | .notANumber => .nan
  | .zero s => .finite (Sign.isNegative s) 0 (-1074)
  | .finite s m e _ => .finite (Sign.isNegative s) m e

theorem isNegative_ofBitVec (b : BitVec 64) :
    Sign.isNegative (Sign.ofBitVec (@unpackSign Format.binary64 b)) = (b.toNat >>> 63 == 1) := by
  have hb := b.isLt
  have hsign : @unpackSign Format.binary64 b = 0#1 ↔ b.toNat / 2 ^ 63 = 0 := by
    rw [← BitVec.toNat_inj, toNat_unpackSign]
    rfl
  rw [Sign.ofBitVec, Nat.shiftRight_eq_div_pow]
  split
  · rw [hsign.1 ‹_›]
    rfl
  · have hone : b.toNat / 2 ^ 63 = 1 := by
      have hne := mt hsign.2 ‹_›
      omega
    rw [hone]
    rfl

theorem exactParts_eq (x : Float) : exactParts x = partsOf x.toModel.unpack := by
  change _ = partsOf (unpack Format.binary64 x.toBits.toBitVec)
  have hbits : x.toBits.toNat = x.toBits.toBitVec.toNat := rfl
  unfold exactParts unpack
  rw [hbits]
  generalize x.toBits.toBitVec = b
  have hunit : leadingUnit = 2 ^ 52 := rfl
  have hmantissa := toNat_unpackMantissa b
  have hexponent := toNat_unpackExponent b
  have htop : @unpackExponent Format.binary64 b = -1#_ ↔ b.toNat / 2 ^ 52 % 2048 = 2047 := by
    rw [← BitVec.toNat_inj, hexponent]
    rfl
  have hlow : @unpackExponent Format.binary64 b = 0#_ ↔ b.toNat / 2 ^ 52 % 2048 = 0 := by
    rw [← BitVec.toNat_inj, hexponent]
    rfl
  have hzero : @unpackMantissa Format.binary64 b = 0#_ ↔ b.toNat % 2 ^ 52 = 0 := by
    rw [← BitVec.toNat_inj, hmantissa]
    rfl
  have hwhole : (1#1 ++ @unpackMantissa Format.binary64 b).toNat = b.toNat % 2 ^ 52 + 2 ^ 52 := by
    have hk : b.toNat % 2 ^ 52 < 2 ^ 52 := Nat.mod_lt _ (by decide)
    rw [BitVec.toNat_append, hmantissa, Nat.add_comm]
    exact (Nat.two_pow_add_eq_or_of_lt hk 1).symm
  have hbias : (Format.binary64.exponentBias : Int) = 1023 := by decide
  -- both readings go by the same three questions about the fields
  simp only [htop, hlow, hzero, hunit, Nat.shiftRight_eq_div_pow b.toNat 52]
  split_ifs with h1 h2 h3 h4
  · rw [partsOf, isNegative_ofBitVec]
  · rfl
  · rw [partsOf, isNegative_ofBitVec, h4]
  · rw [partsOf, isNegative_ofBitVec, hmantissa, hexponent, h3, hbias]
    rfl
  · rw [partsOf, isNegative_ofBitVec, hwhole, hexponent, hbias]
    rfl

/-- The number that a double is, by its parts. -/
theorem value?_of_exactParts {negative : Bool} {m : Nat} {e : Int}
    (h : exactParts x = .finite negative m e) :
    value? x = some (if negative then -(m * 2 ^ e : ℚ) else m * 2 ^ e) := by
  rw [exactParts_eq] at h
  unfold value?
  cases hp : x.toModel.unpack with
  | infinity s => rw [hp] at h; cases h
  | notANumber => rw [hp] at h; cases h
  | zero s =>
    rw [hp] at h
    cases h
    simp [quantity?]
  | finite s k j hk =>
    rw [hp] at h
    cases h
    cases s <;> simp [quantity?, Sign.isNegative]

/-! ## Scaling and rounding -/

theorem quotient_scaleTwo (num : Nat) (hden : 0 < den) (e : Int) :
    0 < (scaleTwo num den e).2 ∧
      ((scaleTwo num den e).1 : ℚ) / (scaleTwo num den e).2 = num / (den * 2 ^ e) := by
  cases e with
  | ofNat k =>
    refine ⟨by simpa [scaleTwo, Nat.shiftLeft_eq] using hden, ?_⟩
    simp [scaleTwo, Nat.shiftLeft_eq]
  | negSucc k =>
    refine ⟨hden, ?_⟩
    simp only [scaleTwo, Nat.shiftLeft_eq, zpow_negSucc]
    push_cast
    field_simp

/-- A whole number next to which there is no nearer one; of two that are equally near, the even
one. -/
structure IsNearest (n : Nat) (r : ℚ) : Prop where
  near : |r - n| ≤ 1 / 2
  even : |r - n| = 1 / 2 → Even n

theorem isNearest_roundHalfEven (num : Nat) (hden : 0 < den) :
    IsNearest (roundHalfEven num den) (num / den) := by
  have hpos : (0 : ℚ) < den := by exact_mod_cast hden
  have hdivide : (num : ℚ) / den = (num / den : Nat) + ((num % den : Nat) : ℚ) / den := by
    have hnum : (num : ℚ) = den * (num / den : Nat) + (num % den : Nat) := by
      exact_mod_cast (Nat.div_add_mod num den).symm
    conv_lhs => rw [hnum]
    field_simp
  have hmod := Nat.mod_lt num hden
  rw [hdivide]
  unfold roundHalfEven
  generalize num % den = rest at hmod ⊢
  generalize num / den = whole
  -- how far it is down, and whether that is half of the way
  have hnonneg : (0 : ℚ) ≤ rest / den := by positivity
  have hone : (rest : ℚ) / den < 1 := by rwa [div_lt_one hpos, Nat.cast_lt]
  have hless : (rest : ℚ) / den < 1 / 2 ↔ 2 * rest < den := by
    rw [div_lt_iff₀ hpos, ← @Nat.cast_lt ℚ]
    push_cast
    constructor <;> intro h <;> linarith
  have hhalf : (rest : ℚ) / den = 1 / 2 ↔ 2 * rest = den := by
    rw [div_eq_iff hpos.ne', ← @Nat.cast_inj ℚ]
    push_cast
    constructor <;> intro h <;> linarith
  dsimp only
  split
  case isTrue hdown =>
    have hdist : |(whole : ℚ) + rest / den - whole| = rest / den := by
      rw [add_sub_cancel_left, abs_of_nonneg hnonneg]
    simp only [Bool.or_eq_true, decide_eq_true_eq, Bool.and_eq_true, beq_iff_eq] at hdown
    refine ⟨?_, fun htie => ?_⟩
    · rw [hdist]
      rcases hdown with hlt | ⟨heq, -⟩
      · exact (hless.2 hlt).le
      · exact (hhalf.2 heq).le
    · rw [hdist, hhalf] at htie
      exact Nat.even_iff.2 (by omega)
  case isFalse hup =>
    have hdist : |(whole : ℚ) + rest / den - (whole + 1 : Nat)| = 1 - rest / den := by
      rw [abs_sub_comm, Nat.cast_add, Nat.cast_one, add_sub_add_left_eq_sub,
        abs_of_pos (sub_pos.2 hone)]
    simp only [Bool.or_eq_true, decide_eq_true_eq, Bool.and_eq_true, beq_iff_eq] at hup
    have hge : (1 : ℚ) / 2 ≤ rest / den := not_lt.1 fun h => hup (.inl (hless.1 h))
    refine ⟨by rw [hdist]; linarith, fun htie => ?_⟩
    rw [hdist] at htie
    have htie := hhalf.1 (by linarith)
    exact Nat.even_iff.2 (by omega)

/-- Up to a half, and with it, the nearest whole number is zero. -/
theorem IsNearest.pos_iff (h : IsNearest n r) (hr : 0 ≤ r) : 0 < n ↔ 1 / 2 < r := by
  obtain ⟨hnear, heven⟩ := h
  constructor
  · intro hn
    by_contra hle
    have hone : (1 : ℚ) ≤ n := by exact_mod_cast hn
    have habs : |r - n| = n - r := by rw [abs_sub_comm, abs_of_nonneg (by linarith)]
    rw [habs] at hnear heven
    have hn1 : (n : ℚ) = 1 := by linarith
    have : n = 1 := by exact_mod_cast hn1
    subst this
    have heven := heven (by linarith)
    exact absurd heven (by decide)
  · intro hhalf
    by_contra hn
    obtain rfl : n = 0 := by omega
    simp [abs_of_nonneg hr] at hnear
    linarith

end Decimal

/-! ## Spans of seconds -/

namespace Duration

open Decimal

variable {x : Float} {q : ℚ}

/-- A positive number of seconds is rounded, unless it is too large. -/
theorem trySeconds_positive {m : Nat} {e : Int} {hm : 0 < m}
    (hp : x.toModel.unpack = .finite .positive m e hm) :
    ((m : ℚ) * 2 ^ e < 2 ^ 64 →
      ∃ d, trySeconds x = .ok d ∧ IsNearest d.nanos (m * 2 ^ e * perSecond)) ∧
    (2 ^ 64 ≤ (m : ℚ) * 2 ^ e → trySeconds x = .error .tooBig) := by
  obtain ⟨hden, hquotient⟩ := quotient_scaleTwo m Nat.one_pos (-e)
  rw [zpow_neg, Nat.cast_one, one_mul, div_inv_eq_mul] at hquotient
  have hpos : (0 : ℚ) < (scaleTwo m 1 (-e)).2 := by exact_mod_cast hden
  have hlarge : (scaleTwo m 1 (-e)).2 * (maxU64 + 1) ≤ (scaleTwo m 1 (-e)).1 ↔
      2 ^ 64 ≤ (m : ℚ) * 2 ^ e := by
    have hlimit : ((maxU64 + 1 : Nat) : ℚ) = 2 ^ 64 := by norm_num [maxU64]
    rw [← hquotient, le_div_iff₀ hpos, ← hlimit, mul_comm]
    exact_mod_cast Iff.rfl
  have htry : trySeconds x = if (scaleTwo m 1 (-e)).2 * (maxU64 + 1) ≤ (scaleTwo m 1 (-e)).1 then
      .error .tooBig
      else .ok ⟨roundHalfEven ((scaleTwo m 1 (-e)).1 * perSecond) (scaleTwo m 1 (-e)).2⟩ := by
    simp [trySeconds, exactParts_eq, hp, partsOf, Sign.isNegative, hm.ne']
  constructor
  · intro hq
    refine ⟨_, by rw [htry, if_neg (by rw [hlarge]; exact not_le.2 hq)], ?_⟩
    have hnear := isNearest_roundHalfEven ((scaleTwo m 1 (-e)).1 * perSecond) hden
    have hscaled : (((scaleTwo m 1 (-e)).1 * perSecond : Nat) : ℚ) / (scaleTwo m 1 (-e)).2 =
        m * 2 ^ e * perSecond := by
      rw [← hquotient]
      push_cast
      ring
    rwa [hscaled] at hnear
  · intro hq
    rw [htry, if_pos (hlarge.2 hq)]

theorem trySeconds_of_value (h : value? x = some q) (h0 : 0 ≤ q) (hq : q < 2 ^ 64) :
    ∃ d, trySeconds x = .ok d ∧ IsNearest d.nanos (q * perSecond) := by
  rcases value_cases h with ⟨rfl, s, hp⟩ | ⟨-, m, e, hm, hp, rfl⟩ | ⟨hneg, -⟩
  · exact ⟨⟨0⟩, by simp [trySeconds, exactParts_eq, hp, partsOf], by simp, by simp⟩
  · exact (trySeconds_positive hp).1 hq
  · exact absurd h0 (not_le.2 hneg)

/-- No span is made of negative, infinite, undefined or too many seconds. -/
theorem exists_value_of_trySeconds {d : Duration} (h : trySeconds x = .ok d) :
    ∃ q, value? x = some q ∧ 0 ≤ q ∧ q < 2 ^ 64 := by
  cases hp : x.toModel.unpack with
  | infinity s => simp [trySeconds, exactParts_eq, hp, partsOf] at h
  | notANumber => simp [trySeconds, exactParts_eq, hp, partsOf] at h
  | zero s => exact ⟨0, by rw [value?, hp]; rfl, le_rfl, by norm_num⟩
  | finite s m e hm =>
    cases s with
    | positive =>
      refine ⟨m * 2 ^ e, by rw [value?, hp]; rfl, by positivity, not_le.1 fun hlarge => ?_⟩
      rw [(trySeconds_positive hp).2 hlarge] at h
      cases h
    | negative => simp [trySeconds, exactParts_eq, hp, partsOf, Sign.isNegative, hm.ne'] at h

end Duration
end MysqlMetrics
