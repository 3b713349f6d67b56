import Mathlib
import MysqlMetrics.Collector.ResponseTime
/-!
# Response times added up

The rows of a distribution count queries one by one, a histogram counts them up to a bound
(`bucketsOf`). One row after the other is added (`histogramOf_append_one`), so that count and
buckets are the sums they should be, as far as 64 bits hold them: the histogram is exact if and only
if the counts of all rows together do not leave 64 bits (`histogram_exact_iff`).
-/
namespace MysqlMetrics.Collector.ResponseTime

variable {rows : List Row} {row : Row}

/-- The counts of the rows together, without a limit. -/
def total (rows : List Row) : Nat := (rows.map countOf).sum

/-- The buckets of some rows: one for each row with a bound, in their order, with the count of the
rows up to this one. -/
def bucketsOf (rows : List Row) : List (Float × Nat) :=
  rows.inits.filterMap fun upTo => (upTo.getLast?.bind boundOf).map fun bound => (bound, total upTo)

/-- A histogram that counts the rows as it should. -/
structure Exact (rows : List Row) (h : Histogram) : Prop where
  count : h.count = total rows
  buckets : h.buckets = bucketsOf rows
  ascending : h.buckets.Pairwise fun a b => a.2 ≤ b.2
  bounded : ∀ b ∈ h.buckets, b.2 ≤ h.count

/-! ## The sums -/

theorem total_append_one (rows : List Row) (row : Row) :
    total (rows ++ [row]) = total rows + countOf row := by
  simp [total]

theorem bucketsOf_append_one (rows : List Row) (row : Row) : bucketsOf (rows ++ [row]) =
    bucketsOf rows ++ ((boundOf row).map fun bound => (bound, total (rows ++ [row]))).toList := by
  have hinits : (rows ++ [row]).inits = rows.inits ++ [rows ++ [row]] := by
    simp [List.inits_append]
  unfold bucketsOf
  rw [hinits, List.filterMap_append]
  congr 1
  cases hb : boundOf row <;> simp [hb]

theorem snd_le_total : ∀ b ∈ bucketsOf rows, b.2 ≤ total rows := by
  induction rows using List.reverseRecOn with
  | nil => simp [bucketsOf]
  | append_singleton rows row ih =>
    intro b hb
    rw [bucketsOf_append_one] at hb
    rcases List.mem_append.1 hb with hb | hb
    · have hle := ih b hb
      rw [total_append_one]
      omega
    · obtain ⟨bound, -, rfl⟩ := Option.map_eq_some_iff.1 (Option.mem_toList.1 hb)
      exact le_rfl

theorem ascending_bucketsOf (rows : List Row) : (bucketsOf rows).Pairwise fun a b => a.2 ≤ b.2 := by
  induction rows using List.reverseRecOn with
  | nil => exact .nil
  | append_singleton rows row ih =>
    rw [bucketsOf_append_one]
    refine List.pairwise_append.2 ⟨ih, ?_, fun a ha b hb => ?_⟩
    · cases boundOf row <;> simp
    · obtain ⟨bound, -, rfl⟩ := Option.map_eq_some_iff.1 (Option.mem_toList.1 hb)
      have hle := snd_le_total a ha
      dsimp only
      rw [total_append_one]
      omega

/-! ## What is kept of them in 64 bits -/

/-- Numbers in 64 bits begin anew after this many. -/
def wordSize : Nat := Decimal.maxU64 + 1

theorem wordSize_eq : wordSize = 2 ^ 64 := by decide

theorem histogramOf_append_one (rows : List Row) (row : Row) :
    histogramOf (rows ++ [row]) = addRow (histogramOf rows) row := List.foldl_append

theorem count_histogramOf (rows : List Row) : (histogramOf rows).count = total rows % wordSize := by
  induction rows using List.reverseRecOn with
  | nil => rfl
  | append_singleton rows row ih =>
    have hstep : (addRow (histogramOf rows) row).count =
        ((histogramOf rows).count + countOf row) % wordSize := rfl
    rw [histogramOf_append_one, hstep, ih, total_append_one, Nat.mod_add_mod]

theorem buckets_histogramOf (rows : List Row) :
    (histogramOf rows).buckets = (bucketsOf rows).map fun b => (b.1, b.2 % wordSize) := by
  induction rows using List.reverseRecOn with
  | nil => rfl
  | append_singleton rows row ih =>
    have hcount := count_histogramOf (rows ++ [row])
    rw [histogramOf_append_one] at hcount
    have hstep : (addRow (histogramOf rows) row).buckets = (histogramOf rows).buckets ++
        ((boundOf row).map fun b => (b, (addRow (histogramOf rows) row).count)).toList := rfl
    rw [histogramOf_append_one, hstep, ih, hcount, bucketsOf_append_one, List.map_append]
    cases boundOf row <;> rfl

theorem exact_of_total_lt (h : total rows < wordSize) : Exact rows (histogramOf rows) := by
  have hcount : (histogramOf rows).count = total rows := by
    rw [count_histogramOf, Nat.mod_eq_of_lt h]
  have hbuckets : (histogramOf rows).buckets = bucketsOf rows := by
    rw [buckets_histogramOf]
    refine (List.map_congr_left fun b hb => ?_).trans (List.map_id _)
    rw [Nat.mod_eq_of_lt ((snd_le_total b hb).trans_lt h)]
    rfl
  refine ⟨hcount, hbuckets, ?_, ?_⟩
  · rw [hbuckets]
    exact ascending_bucketsOf rows
  · rw [hbuckets, hcount]
    exact snd_le_total

/-- **A histogram of response times** is made of any rows. Its count and its buckets are those of
the rows as far as 64 bits hold them, and it is exact if and only if 64 bits hold the counts of all
rows together. -/
theorem histogram_exact_iff {desc : Desc} (hk : desc.kind = .histogram) (hl : desc.labels = [])
    (rows : List Row) : ∃ h, sample desc rows = .ok ⟨desc, [], .histogram h⟩ ∧
      h.count = total rows % 2 ^ 64 ∧
      h.buckets = (bucketsOf rows).map (fun b => (b.1, b.2 % 2 ^ 64)) ∧
      (Exact rows h ↔ total rows < 2 ^ 64) := by
  rw [← wordSize_eq]
  refine ⟨histogramOf rows, ?_, count_histogramOf rows, buckets_histogramOf rows, fun h => ?_,
    exact_of_total_lt⟩
  · rw [sample, Sample.ofHistogram, if_pos hk, Sample.build, if_pos (by rw [hl])]
  · rw [← h.count, count_histogramOf]
    exact Nat.mod_lt _ (by decide)

/-- Two rows whose counts leave 64 bits. -/
def crowded : List Row :=
  rowsOf ["TIME", "COUNT", "TOTAL"]
    [["1", "18446744073709551615", "0"].map fun s => some (Utf8.encode s),
     ["2", "1", "0"].map fun s => some (Utf8.encode s)]

/-- The second bucket counts fewer than the first. -/
theorem not_exact_crowded : total crowded = 2 ^ 64 ∧ ∃ h,
    sample (descFor "QUERY_RESPONSE_TIME" "query_response_time_seconds") crowded =
      .ok ⟨descFor "QUERY_RESPONSE_TIME" "query_response_time_seconds", [], .histogram h⟩ ∧
    h.count = 0 ∧ h.buckets.map (·.2) = [18446744073709551615, 0] ∧ ¬ Exact crowded h := by
  have htotal : total crowded = 2 ^ 64 := by decide
  have hk : (descFor "QUERY_RESPONSE_TIME" "query_response_time_seconds").kind = .histogram := rfl
  obtain ⟨h, hs, hcount, hbuckets, hexact⟩ := histogram_exact_iff hk rfl crowded
  refine ⟨htotal, h, hs, by rw [hcount, htotal]; rfl, ?_, fun he => ?_⟩
  · rw [hbuckets, List.map_map]
    decide
  · exact absurd (hexact.1 he) (by rw [htotal]; decide)

end MysqlMetrics.Collector.ResponseTime
