import MysqlMetrics.Decimal.Reading
import MysqlMetrics.Options
import MysqlMetrics.Proofs.Decimal.Value
/-!
# The time of a scrape

A caller allows a number of seconds if it names a positive one that is not too large (`Allows`). The
time of the scrape is then made of the nearest span, less the offset if something is left
(`allowed_of_allows`), and else it is that of the command line (`allowed_eq_none`). Half a
nanosecond and less is a positive number, but no span: such a caller gets no time at all.
-/
namespace MysqlMetrics.Options

open Decimal

variable {o : Options} {supplied : Option Float} {q : ℚ} {d : Duration}

/-- What a caller supplies is a number of seconds above zero and below `2 ^ 64`. -/
structure Allows (supplied : Option Float) (q : ℚ) : Prop where
  value : supplied.bind value? = some q
  pos : 0 < q
  lt : q < 2 ^ 64

theorem Allows.unique {r : ℚ} (h : Allows supplied q) (h' : Allows supplied r) : q = r :=
  Option.some.inj (h.value.symm.trans h'.value)

theorem allowed_of_allows (h : Allows supplied q) :
    ∃ d, allowed supplied = some d ∧ IsNearest d.nanos (q * Duration.perSecond) := by
  obtain ⟨x, rfl, hx⟩ := Option.bind_eq_some_iff.1 h.value
  obtain ⟨d, hd, hnear⟩ := Duration.trySeconds_of_value hx h.pos.le h.lt
  refine ⟨d, ?_, hnear⟩
  simp [allowed, Option.filter_some, (ofNat_zero_lt hx).2 h.pos, hd, Except.toOption]

theorem allowed_eq_none (h : ∀ q, ¬ Allows supplied q) : allowed supplied = none := by
  cases supplied with
  | none => rfl
  | some x =>
    refine Option.eq_none_iff_forall_ne_some.2 fun d hd => ?_
    obtain ⟨y, hy, hd⟩ := Option.bind_eq_some_iff.1 hd
    obtain ⟨rfl, hpos⟩ : x = y ∧ ofNat 0 < y := by simpa [Option.filter_eq_some_iff] using hy
    cases htry : Duration.trySeconds x with
    | error err => rw [htry] at hd; cases hd
    | ok e =>
      obtain ⟨q, hq, -, hlt⟩ := Duration.exists_value_of_trySeconds htry
      exact h q ⟨hq, (ofNat_zero_lt hq).1 hpos, hlt⟩

theorem effectiveTimeout_of_none (h : allowed supplied = none) :
    o.effectiveTimeout supplied = o.scrapeTimeout := by
  rw [effectiveTimeout, h]

theorem nanos_effectiveTimeout (h : allowed supplied = some d) :
    (o.effectiveTimeout supplied).nanos =
      if o.timeoutOffset.nanos < d.nanos then d.nanos - o.timeoutOffset.nanos else d.nanos := by
  rw [effectiveTimeout, h]
  dsimp only
  split <;> rfl

/-- The offset is all that the time of a caller can lose. -/
theorem effectiveTimeout_of_some (h : allowed supplied = some d) :
    d.nanos - o.timeoutOffset.nanos ≤ (o.effectiveTimeout supplied).nanos ∧
      (o.effectiveTimeout supplied).nanos ≤ d.nanos := by
  rw [nanos_effectiveTimeout h]
  split
  · exact ⟨Nat.le_refl _, Nat.sub_le _ _⟩
  · exact ⟨Nat.sub_le _ _, Nat.le_refl _⟩

/-- **The time of a scrape.** Where a caller allows a number of seconds, it is the nearest span less
the offset, or all of that span if nothing would be left, and so never more than that span;
otherwise it is what the command line gives, and nothing else is ever taken. It is positive if and
only if the caller does not allow half a nanosecond or less. -/
theorem effectiveTimeout_spec (supplied : Option Float) (h : 0 < o.scrapeTimeout.nanos) :
    (∀ q, Allows supplied q → ∃ d, IsNearest d (q * Duration.perSecond) ∧
      (o.effectiveTimeout supplied).nanos =
        (if o.timeoutOffset.nanos < d then d - o.timeoutOffset.nanos else d) ∧
      (o.effectiveTimeout supplied).nanos ≤ d) ∧
    ((∀ q, ¬ Allows supplied q) → o.effectiveTimeout supplied = o.scrapeTimeout) ∧
    (0 < (o.effectiveTimeout supplied).nanos ↔
      ∀ q, Allows supplied q → 1 / 2 < q * Duration.perSecond) := by
  refine ⟨fun q hq => ?_, fun hq => effectiveTimeout_of_none (allowed_eq_none hq), ?_⟩
  · obtain ⟨d, hd, hnear⟩ := allowed_of_allows hq
    exact ⟨d.nanos, hnear, nanos_effectiveTimeout hd, (effectiveTimeout_of_some hd).2⟩
  · by_cases hq : ∃ q, Allows supplied q
    · obtain ⟨q, hq⟩ := hq
      obtain ⟨d, hd, hnear⟩ := allowed_of_allows hq
      have hspan : 0 < (o.effectiveTimeout supplied).nanos ↔ 0 < d.nanos := by
        rw [nanos_effectiveTimeout hd]
        split <;> omega
      have hnonneg : 0 ≤ q * Duration.perSecond := mul_nonneg hq.pos.le (Nat.cast_nonneg _)
      rw [hspan, hnear.pos_iff hnonneg]
      exact ⟨fun hhalf r hr => hq.unique hr ▸ hhalf, fun hall => hall q hq⟩
    · rw [not_exists] at hq
      rw [effectiveTimeout_of_none (allowed_eq_none hq)]
      exact iff_of_true h fun q hallows => absurd hallows (hq q)

/-- A tenth of a nanosecond is allowed, and no time is left for the scrape. -/
theorem effectiveTimeout_eq_zero :
    0 < ({} : Options).scrapeTimeout.nanos ∧
      Allows (Decimal.read "1e-10") (7737125245533627 * 2 ^ (-86 : ℤ)) ∧
      (({} : Options).effectiveTimeout (Decimal.read "1e-10")).nanos = 0 := by
  have hscrape : 0 < ({} : Options).scrapeTimeout.nanos := by decide
  have hparts : (Decimal.read "1e-10").map exactParts =
      some (.finite false 7737125245533627 (-86)) := by decide +kernel
  obtain ⟨x, hread, hparts⟩ := Option.map_eq_some_iff.1 hparts
  have hallows : Allows (Decimal.read "1e-10") (7737125245533627 * 2 ^ (-86 : ℤ)) := by
    refine ⟨?_, by positivity, by norm_num⟩
    rw [hread, Option.bind_some, value?_of_exactParts hparts]
    norm_num
  refine ⟨hscrape, hallows, ?_⟩
  obtain ⟨-, -, hpos⟩ := effectiveTimeout_spec (o := {}) (Decimal.read "1e-10") hscrape
  by_contra hne
  have hhalf := hpos.1 (Nat.pos_of_ne_zero hne) _ hallows
  norm_num [Duration.perSecond] at hhalf

end MysqlMetrics.Options
