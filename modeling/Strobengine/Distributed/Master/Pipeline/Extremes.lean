import Strobengine.Distributed.Master.Pipeline.Aggregates
import Strobengine.Distributed.Telemetry.Windows

/-!
# Percentiles against the observed extremes

Percentiles are interpolated between the bounds of fixed buckets. They may lie beyond the observed
extremes, but not beyond the buckets in which these lie.
-/

namespace Strobengine.Metrics

def HdrStatistics.Encloses (hdr : HdrStatistics) : Prop :=
  ∀ histogram, ∀ entry ∈ hdr.iterRecorded histogram,
    hdr.minimum histogram ≤ entry.1 ∧ entry.1 ≤ hdr.maximum histogram

theorem encloses_exact : HdrStatistics.exact.Encloses := by
  intro histogram entry member
  obtain ⟨value, recorded, rfl⟩ := List.mem_map.mp member
  have filled := List.ne_nil_of_mem recorded
  constructor
  · obtain ⟨minimum, found⟩ := Option.ne_none_iff_exists'.mp (mt List.min?_eq_none_iff.mp filled)
    change histogram.min?.getD 0 ≤ value
    rw [found]
    exact (List.min?_eq_some_iff.mp found).2 value recorded
  · obtain ⟨maximum, found⟩ := Option.ne_none_iff_exists'.mp (mt List.max?_eq_none_iff.mp filled)
    change value ≤ histogram.max?.getD 0
    rw [found]
    exact (List.max?_eq_some_iff.mp found).2 value recorded

/-! ## The bucket of a latency -/

def keyAbove (ms : ℚ) (last : String) : List (ℚ × String) → String
  | [] => last
  | (bound, key) :: rest => if ms < bound then key else keyAbove ms last rest

def upperBounds : List ℚ :=
  bucketLimits.map Nat.cast

def bucketIndex (ms : ℚ) : Nat :=
  upperBounds.findIdx (fun bound => ms < bound)

theorem getElem?_keyAbove (ms : ℚ) (last : String) {bounds : List ℚ} {keys : List String}
    (aligned : bounds.length = keys.length) :
    (keys ++ [last])[bounds.findIdx (fun bound => ms < bound)]? =
      some (keyAbove ms last (bounds.zip keys)) := by
  induction bounds generalizing keys with
  | nil =>
    cases keys with
    | nil => rfl
    | cons => cases aligned
  | cons bound bounds ih =>
    cases keys with
    | nil => cases aligned
    | cons =>
      rw [List.zip_cons_cons, keyAbove, List.findIdx_cons]
      by_cases below : ms < bound
      · rw [if_pos below, decide_eq_true below]
        rfl
      · rw [if_neg below, decide_eq_false below]
        exact ih (Nat.succ.inj aligned)

theorem getElem?_bucketIndex (ms : ℚ) :
    histogramBucketOrder[bucketIndex ms]? = some (bucketKey ms) := by
  have aligned : upperBounds.length = histogramBucketOrder.dropLast.length := rfl
  exact getElem?_keyAbove ms ">1000ms" aligned

theorem exists_recorded_of_bucket {hdr : HdrStatistics} {histogram : Histogram} {index : Nat}
    (filled : 0 < (histogramBuckets hdr histogram).getD index 0) :
    ∃ entry ∈ hdr.iterRecorded histogram, bucketIndex ((entry.1 : ℚ) / microsPerMilli) = index := by
  unfold histogramBuckets at filled
  rw [List.getD_eq_getElem?_getD, List.getElem?_map] at filled
  cases named : histogramBucketOrder[index]? with
  | none =>
    rw [named] at filled
    exact absurd filled (Nat.lt_irrefl 0)
  | some key =>
    rw [named, Option.map_some, Option.getD_some, calculateHistogramFromHdr] at filled
    suffices recorded :
        ∃ entry ∈ hdr.iterRecorded histogram, bucketKey ((entry.1 : ℚ) / microsPerMilli) = key by
      obtain ⟨entry, member, same⟩ := recorded
      refine ⟨entry, member, ?_⟩
      have placed := getElem?_bucketIndex ((entry.1 : ℚ) / microsPerMilli)
      rw [same, ← named] at placed
      obtain ⟨inside, _⟩ := List.getElem?_eq_some_iff.mp (placed.trans named)
      exact (List.getElem?_inj inside nodup_histogramBucketOrder).mp placed
    generalize hdr.iterRecorded histogram = entries at filled ⊢
    induction entries using List.reverseRecOn with
    | nil => exact absurd filled (Nat.lt_irrefl 0)
    | append_singleton entries entry ih =>
      rw [List.foldl_concat] at filled
      by_cases same : bucketKey ((entry.1 : ℚ) / microsPerMilli) = key
      · exact ⟨entry, List.mem_append_right _ List.mem_cons_self, same⟩
      · rw [if_neg same] at filled
        obtain ⟨earlier, member, found⟩ := ih filled
        exact ⟨earlier, List.mem_append_left _ member, found⟩

end Strobengine.Metrics

namespace Strobengine.Distributed.Master

open Foundations Strobengine.Metrics Rust

theorem mark_succ (maximum : ℚ) {index : Nat} (inner : index < upperBounds.length) :
    (bucketScale maximum).mark (index + 1) = upperBounds[index] := by
  change ((0 :: upperBounds)[index + 1]?).getD (max maximum 1000) = _
  rw [List.getElem?_cons_succ, List.getElem?_eq_getElem inner, Option.getD_some]

theorem bucketIndex_bounds (maximum ms : ℚ) :
    bucketIndex ms < 10 ∧ (0 < bucketIndex ms → (bucketScale maximum).mark (bucketIndex ms) ≤ ms) ∧
      (bucketIndex ms < 9 → ms < (bucketScale maximum).mark (bucketIndex ms + 1)) := by
  have inside : bucketIndex ms ≤ upperBounds.length := List.findIdx_le_length
  refine ⟨Nat.lt_succ_of_le inside, ?_, ?_⟩
  · intro positive
    obtain ⟨before, last⟩ := Nat.exists_eq_succ_of_ne_zero (Nat.pos_iff_ne_zero.mp positive)
    have earlier : before < bucketIndex ms := last ▸ Nat.lt_succ_self before
    have passed := List.not_of_lt_findIdx earlier
    rw [last, mark_succ maximum (earlier.trans_le inside)]
    exact not_lt.mp (of_decide_eq_false passed)
  · intro inner
    have above := List.findIdx_getElem (w := inner)
    rw [mark_succ maximum inner]
    exact of_decide_eq_true above

theorem bucketIndex_mono {lower upper : ℚ} (ordered : lower ≤ upper) :
    bucketIndex lower ≤ bucketIndex upper := by
  obtain ⟨inside, begins, _⟩ := bucketIndex_bounds 0 lower
  obtain ⟨_, _, ends⟩ := bucketIndex_bounds 0 upper
  apply Nat.le_of_not_lt
  intro earlier
  have below := ends (by omega)
  have above := begins (by omega)
  have marks := (bucketScale 0).ordered (Nat.succ_le_of_lt earlier)
  exact absurd ordered (not_le_of_gt (below.trans_le (marks.trans above)))

/-! ## Batches of collectors -/

/-- The batch was emitted by a collector, after whatever calls. -/
def Produced (hdr : HdrStatistics) (batch : Proto.MetricBatch Nat) : Prop :=
  ∃ workerId testRunId windowMs now calls,
    batch ∈
      (List.foldl (WindowedCollector.Collection.call hdr)
        (WindowedCollector.Collection.new workerId testRunId windowMs now) calls).emitted

theorem Produced.latency
    {hdr : HdrStatistics} {batch : Proto.MetricBatch Nat} (produced : Produced hdr batch) :
    ∃ histogram, histogram ≠ [] ∧ batch.latency = some (latencySummary hdr histogram) := by
  obtain ⟨workerId, testRunId, windowMs, now, calls, emitted⟩ := produced
  obtain ⟨windows, current, divides⟩ :=
    WindowedCollector.Collection.exists_divides hdr workerId testRunId windowMs now calls
  obtain ⟨index, inside, rfl⟩ := List.getElem_of_mem emitted
  have inside' : index < windows.length := divides.batches.length_eq ▸ inside
  have describes := divides.batches.get inside inside'
  refine ⟨windows[index].map recordedLatency, ?_, describes.latencies⟩
  exact List.map_eq_nil_iff.not.mpr (divides.nonempty _ (List.getElem_mem inside'))

section Summary

variable {hdr : HdrStatistics} {histogram : Histogram} (filled : histogram ≠ [])

include filled

theorem latencySummary_bucketCounts :
    (latencySummary hdr histogram).bucketCounts = histogramBuckets hdr histogram := by
  rw [latencySummary, if_neg filled]

theorem latencySummary_minMs :
    (latencySummary hdr histogram).minMs = (hdr.minimum histogram : ℚ) / microsPerMilli := by
  rw [latencySummary, if_neg filled]

theorem latencySummary_maxMs :
    (latencySummary hdr histogram).maxMs = (hdr.maximum histogram : ℚ) / microsPerMilli := by
  rw [latencySummary, if_neg filled]

theorem bucketIndex_between (encloses : hdr.Encloses) {index : Nat}
    (sample : 0 < (latencySummary hdr histogram).bucketCounts.getD index 0) :
    bucketIndex (latencySummary hdr histogram).minMs ≤ index ∧
      index ≤ bucketIndex (latencySummary hdr histogram).maxMs := by
  rw [latencySummary_bucketCounts filled] at sample
  obtain ⟨entry, recorded, placed⟩ := exists_recorded_of_bucket sample
  obtain ⟨above, below⟩ := encloses histogram entry recorded
  have scale : (0 : ℚ) ≤ microsPerMilli := by decide +kernel
  rw [latencySummary_minMs filled, latencySummary_maxMs filled, ← placed]
  constructor
  · exact bucketIndex_mono (div_le_div_of_nonneg_right (Nat.cast_le.mpr above) scale)
  · exact bucketIndex_mono (div_le_div_of_nonneg_right (Nat.cast_le.mpr below) scale)

end Summary

/-! ## Percentiles of aggregates -/

/-- The percentile lies in the buckets between those of the observed extremes; the
open-ended bucket ends at the maximum. -/
def WithinBuckets (metrics : Metrics Nat) (percentile : Float64) : Prop :=
  let scale := bucketScale metrics.latency.maxMs
  .finite (scale.mark (bucketIndex metrics.latency.minMs)) ≤ percentile ∧
    percentile ≤ .finite (scale.mark (bucketIndex metrics.latency.maxMs + 1))

section Aggregate

variable {hdr : HdrStatistics} (counts : hdr.CountsEach) (encloses : hdr.Encloses)
  {width : Nat} (wide : 10 ≤ width) {history : List (Proto.MetricBatch Nat)}
  (produced : ∀ batch ∈ history, Produced hdr batch)
  {metrics : Metrics Nat} (aggregates : metrics.Aggregates width history)

include encloses produced aggregates

theorem bucketIndex_between_extremes {index : Nat} (filled : 0 < metrics.buckets.getD index 0) :
    bucketIndex metrics.latency.minMs ≤ index ∧ index ≤ bucketIndex metrics.latency.maxMs ∧
      BoundedBucket metrics.fallbackMax metrics.latency.maxMs index := by
  obtain ⟨batch, member, latency, measured, sample, ⟨minimum, least, atMost⟩, maximum,
    greatest, atLeast⟩ := Metrics.exists_batch_of_sample aggregates filled
  obtain ⟨histogram, nonempty, summary⟩ := (produced batch member).latency
  rw [summary] at measured
  cases measured
  obtain ⟨above, below⟩ := bucketIndex_between nonempty encloses sample
  have minMs : metrics.latency.minMs = minimum := by
    rw [Metrics.latency, least]
    rfl
  have maxMs : metrics.latency.maxMs = maximum := by
    rw [Metrics.latency, greatest]
    rfl
  have inside := (bucketIndex_bounds 0 maximum).1
  have order := below.trans (bucketIndex_mono atLeast)
  rw [minMs, maxMs]
  refine ⟨(bucketIndex_mono atMost).trans above, order, ?_⟩
  by_cases inner : index < 9
  · exact Or.inl inner
  · refine Or.inr ⟨by omega, ?_⟩
    rw [Metrics.fallbackMax, greatest]
    rfl

include counts wide

omit encloses in
theorem extremes_of_no_samples (empty : metrics.buckets.sum = 0) :
    metrics.minMs = none ∧ metrics.maxMs = none := by
  obtain ⟨part, included, alike⟩ := aggregates
  have nothing : part = [] := by
    apply List.eq_nil_iff_forall_not_mem.mpr
    intro batch member
    obtain ⟨histogram, nonempty, summary⟩ := (produced batch (included.subset member)).latency
    have total := sum_bucketCounts_latencySummary counts histogram
    rw [latencySummary_bucketCounts nonempty] at total
    have sampled : (histogramBuckets hdr histogram).sum ≠ 0 := by
      rw [total]
      exact List.length_pos_iff.mpr nonempty |>.ne'
    obtain ⟨count, counted, positive⟩ := List.exists_mem_ne_zero_of_sum_ne_zero sampled
    obtain ⟨index, inside, rfl⟩ := List.getElem_of_mem counted
    have place : index < width := by
      have inside' : index < 10 := inside
      omega
    -- the aggregate counts the sample in the same bucket
    have amount := Metrics.inMetrics_gathered width part (.bucket index)
    have carried :=
      List.single_le_sum (fun _ _ => Nat.zero_le _) _
        (List.mem_map_of_mem (f := fun batch => Quantity.inBatch width batch (.bucket index))
          member)
    rw [← amount, ← alike.amounts] at carried
    have zero : Quantity.inMetrics metrics (.bucket index) = 0 := by
      simp only [Quantity.inMetrics]
      cases found : metrics.buckets[index]? with
      | none => rfl
      | some counted => exact List.sum_eq_zero_iff.mp empty counted (List.mem_of_getElem? found)
    rw [zero] at carried
    simp only [Quantity.inBatch, summary, place, if_true, Option.elim_some,
      latencySummary_bucketCounts nonempty] at carried
    rw [List.getElem?_eq_getElem inside, Option.getD_some] at carried
    omega
  subst nothing
  exact ⟨alike.minMs, alike.maxMs⟩

theorem withinBuckets_approxPercentile
    {percentile : ℚ} (nonneg : 0 ≤ percentile) (atMost : percentile ≤ 1) :
    WithinBuckets metrics
      (approxPercentile metrics.buckets percentile metrics.fallbackMax) := by
  unfold WithinBuckets
  by_cases empty : metrics.buckets.sum = 0
  · obtain ⟨least, greatest⟩ := extremes_of_no_samples counts wide produced aggregates empty
    rw [approxPercentile_of_empty empty, Metrics.latency, least, greatest]
    constructor
    · exact le_refl (0 : ℚ)
    · exact zero_le_one (α := ℚ)
  · have bounded : ∀ index, 0 < metrics.buckets.getD index 0 →
        BoundedBucket metrics.fallbackMax metrics.latency.maxMs index :=
      fun index filled =>
        (bucketIndex_between_extremes encloses produced aggregates filled).2.2
    obtain ⟨index, value, held, computed, _, above, below⟩ :=
      exists_approxPercentile (Nat.pos_of_ne_zero empty) bounded nonneg atMost
    obtain ⟨first, last, _⟩ := bucketIndex_between_extremes encloses produced aggregates held.filled
    rw [computed]
    constructor
    · exact ((bucketScale metrics.latency.maxMs).ordered first).trans above
    · exact below.trans ((bucketScale metrics.latency.maxMs).ordered (Nat.succ_le_succ last))

end Aggregate

/-- For every sequence of batches of collectors, the percentiles that the report, its
timeline, its shares and the live snapshots show lie in the buckets between those of the
minimum and of the maximum of the same aggregate. -/
theorem percentiles_within_buckets
    {hdr : HdrStatistics} (counts : hdr.CountsEach) (encloses : hdr.Encloses)
    (runId : String) {bucketCount : Nat} (wide : 10 ≤ bucketCount) (windowEpochs : Int)
    {batches : List (Proto.MetricBatch Nat)} (produced : ∀ batch ∈ batches, Produced hdr batch) :
    TelemetryPipeline.ShownAll
      ((TelemetryPipeline.new runId bucketCount windowEpochs).ingestAll batches)
      (fun metrics shown => ∀ percentile ∈ shown, WithinBuckets metrics percentile) := by
  have wide' : 10 ≤ max bucketCount 1 := wide.trans (Nat.le_max_left _ _)
  apply TelemetryPipeline.shownAll_of_aggregates
    (TelemetryPipeline.holds_ingestAll runId bucketCount windowEpochs batches)
  intro metrics aggregates shown sublist percentile member
  have listed := sublist.subset member
  rw [Metrics.percentiles_eq] at listed
  obtain ⟨rank, reported, rfl⟩ := List.mem_map.mp listed
  have range : ∀ rank ∈ Metrics.reportedRanks, 0 ≤ rank ∧ rank ≤ 1 := by
    decide +kernel
  obtain ⟨nonneg, atMost⟩ := range rank reported
  exact withinBuckets_approxPercentile counts encloses wide' produced aggregates nonneg atMost

/-! ## A single sample -/

def oneSample : List (Proto.MetricBatch Nat) :=
  ([WindowedCollector.Call.record { latencyMicros := 1500, statusCode := 200 },
      .takeBatch 1000].foldl
    (WindowedCollector.Collection.call HdrStatistics.exact)
    (WindowedCollector.Collection.new "worker" "run" 1000 0)).emitted

theorem produced_oneSample : ∀ batch ∈ oneSample, Produced HdrStatistics.exact batch :=
  fun _ member => ⟨"worker", "run", 1000, 0, _, member⟩

theorem percentiles_within_buckets_oneSample :
    TelemetryPipeline.ShownAll ((TelemetryPipeline.new "run" 10 5).ingestAll oneSample)
      (fun metrics shown => ∀ percentile ∈ shown, WithinBuckets metrics percentile) :=
  percentiles_within_buckets countsEach_exact encloses_exact "run" (Nat.le_refl 10) 5
    produced_oneSample

def WithinExtremes (metrics : Metrics Nat) (percentile : Float64) : Prop :=
  .finite metrics.latency.minMs ≤ percentile ∧ percentile ≤ .finite metrics.latency.maxMs

/-- Interpolation puts the median of one sample of 1.5 ms in the middle between 1 ms and
5 ms, above the maximum. -/
theorem median_above_maximum :
    (∀ batch ∈ oneSample, Produced HdrStatistics.exact batch) ∧
      ¬TelemetryPipeline.ShownAll ((TelemetryPipeline.new "run" 10 5).ingestAll oneSample)
        (fun metrics shown => ∀ percentile ∈ shown, WithinExtremes metrics percentile) := by
  refine ⟨produced_oneSample, ?_⟩
  intro within
  have median :
      ((TelemetryPipeline.new "run" 10 5).ingestAll oneSample).finalize.latency.p50Ms =
        .finite 3 := by
    decide +kernel
  have maximum :
      ((TelemetryPipeline.new "run" 10 5).ingestAll oneSample).cumulative.latency.maxMs =
        3 / 2 := by
    decide +kernel
  have below := (within.report _ List.mem_cons_self).2
  rw [median, maximum] at below
  have bound : (3 : ℚ) ≤ 3 / 2 := below
  norm_num at bound

end Strobengine.Distributed.Master
