import Strobengine.Distributed.Master.Pipeline.Aggregates
import Strobengine.Distributed.Master.Pipeline.Machine

/-!
# Counters that fit

As long as nothing overflows, the functions with machine integers compute what the exact model
computes.
-/

namespace Strobengine.Distributed.Master

open Rust

section Counters

variable (build : Build)

theorem addCountsIn_of_fits {errors : HashMap Int Nat} {entries : List (Int × Nat)}
    (fits :
      ∀ errorClass,
        FitsUInt64
          (((entries.foldl
            (fun errors entry => errors.entryOr entry.1 0 (fun count => count + entry.2))
            errors).lookup errorClass).getD 0)) :
    addCountsIn build errors entries =
      .ok
        (entries.foldl
          (fun errors entry => errors.entryOr entry.1 0 (fun count => count + entry.2))
          errors) := by
  apply foldlM_eq_ok
  intro before entry after split
  have final := fits entry.1
  rw [split, List.foldl_append, HashMap.getD_lookup_foldl_entryOr,
    List.filter_cons_of_pos (by simp), List.map_cons, List.sum_cons, ← Nat.add_assoc] at final
  rw [build.uint64_of_fits (final.mono (Nat.le_add_right _ _)), ok_bind]
  rfl

theorem addBucketsIn_of_fits {buckets counts : List Nat}
    (fits : ∀ index : Nat, FitsUInt64 (((Metrics.addBuckets buckets counts)[index]?).getD 0)) :
    addBucketsIn build buckets counts = .ok (Metrics.addBuckets buckets counts) := by
  apply mapM_eq_ok
  intro entry member
  have found : buckets[entry.2]? = some entry.1 := List.mem_zipIdx_iff_getElem?.mp member
  have stored := fits entry.2
  rw [Metrics.getElem?_addBuckets, found] at stored
  exact build.uint64_of_fits stored

theorem sumIn_of_fits {buckets : List Nat} (fits : FitsUInt64 buckets.sum) :
    sumIn build buckets = .ok buckets.sum := by
  have computed :
      sumIn build buckets = .ok (buckets.foldl (fun total count => total + count) 0) := by
    apply foldlM_eq_ok
    intro before count after split
    rw [← List.sum_eq_foldl]
    apply build.uint64_of_fits
    rw [split, List.sum_append, List.sum_cons] at fits
    exact fits.mono (by omega)
  rw [computed, List.sum_eq_foldl]

theorem percentileFromIn_of_fits
    (target : ℚ) (fallbackMax : Float64) {buckets : List Nat} {cumulative : Nat}
    (fits : FitsUInt64 (cumulative + buckets.sum)) (index : Nat) :
    percentileFromIn build target fallbackMax buckets index cumulative =
      .ok (percentileFrom target fallbackMax buckets index cumulative) := by
  induction buckets generalizing cumulative index with
  | nil => rfl
  | cons count rest ih =>
    rw [List.sum_cons] at fits
    rw [percentileFromIn, percentileFrom]
    change _ = Except.ok
      (if count = 0 then _ else if target ≤ (cumulative : ℚ) + count then _ else _)
    by_cases empty : count = 0
    · rw [if_pos empty, if_pos empty]
      exact ih (fits.mono (by omega)) (index + 1)
    · rw [if_neg empty, if_neg empty]
      by_cases reached : target ≤ (cumulative : ℚ) + count
      · rw [if_pos reached, if_pos reached]
        rfl
      · rw [if_neg reached, if_neg reached, build.uint64_of_fits (fits.mono (by omega)), ok_bind]
        exact ih (fits.mono (by omega)) (index + 1)

theorem approxPercentileIn_of_fits
    {buckets : List Nat} (fits : FitsUInt64 buckets.sum) (percentile : ℚ) (fallbackMax : Float64) :
    approxPercentileIn build buckets percentile fallbackMax =
      .ok (approxPercentile buckets percentile fallbackMax) := by
  rw [approxPercentileIn, sumIn_of_fits build fits, ok_bind, approxPercentile]
  change _ = Except.ok (if buckets.sum = 0 then _ else _)
  by_cases empty : buckets.sum = 0
  · rw [if_pos empty, if_pos empty]
    rfl
  · rw [if_neg empty, if_neg empty]
    apply percentileFromIn_of_fits
    rw [Nat.zero_add]
    exact fits

end Counters

namespace Metrics

/-- Every counter fits, and so does the sum over the latency buckets. -/
structure Fits (metrics : Metrics Nat) : Prop where
  amounts : ∀ quantity : Quantity, FitsUInt64 (quantity.inMetrics metrics)
  samples : FitsUInt64 metrics.buckets.sum

section Fits

variable (build : Build) {metrics other : Metrics Nat}

theorem mergeBatchIn_of_fits
    {batch : Proto.MetricBatch Nat} (fits : (metrics.mergeBatch batch).Fits) :
    metrics.mergeBatchIn build batch = .ok (metrics.mergeBatch batch) := by
  have total := fits.amounts .requests
  have success := fits.amounts .successes
  have failure := fits.amounts .failures
  have bytes := fits.amounts .bytes
  have errors : addCountsIn build metrics.errors
      (batch.errors.map (fun error => (error.errorClass, error.count))) =
        .ok (metrics.mergeBatch batch).errors := by
    have merged : (metrics.mergeBatch batch).errors =
        (batch.errors.map (fun error => (error.errorClass, error.count))).foldl
          (fun errors entry => errors.entryOr entry.1 0 (fun count => count + entry.2))
          metrics.errors := by
      rw [mergeBatch_errors, List.foldl_map]
    rw [merged]
    apply addCountsIn_of_fits
    rw [← merged]
    exact fun errorClass => fits.amounts (.errors errorClass)
  simp only [Quantity.inMetrics, mergeBatch_total, mergeBatch_success, mergeBatch_failure,
    mergeBatch_bytes] at total success failure bytes
  cases measured : batch.latency with
  | none =>
    simp only [mergeBatchIn, build.uint64_of_fits total, build.uint64_of_fits success,
      build.uint64_of_fits failure, build.uint64_of_fits bytes, measured, errors, ok_bind,
      pure_bind]
    rw [mergeBatch_errors]
    simp only [mergeBatch, measured]
    rfl
  | some latency =>
    have samples := fits.amounts .samples
    have buckets :
        addBucketsIn build metrics.buckets latency.bucketCounts =
          .ok (addBuckets metrics.buckets latency.bucketCounts) := by
      apply addBucketsIn_of_fits
      intro index
      have bucket := fits.amounts (.bucket index)
      simpa only [Quantity.inMetrics, mergeBatch_buckets, measured, Option.elim_some]
        using bucket
    simp only [Quantity.inMetrics, mergeBatch_sampleCount, measured, Option.elim_some] at samples
    simp only [mergeBatchIn, build.uint64_of_fits total, build.uint64_of_fits success,
      build.uint64_of_fits failure, build.uint64_of_fits bytes, measured, errors, buckets,
      build.uint64_of_fits samples, ok_bind, pure_bind]
    rw [mergeBatch_errors]
    simp only [mergeBatch, measured]
    rfl

theorem mergeIn_of_fits (fits : (metrics.merge other).Fits) :
    metrics.mergeIn build other = .ok (metrics.merge other) := by
  have total := fits.amounts .requests
  have success := fits.amounts .successes
  have failure := fits.amounts .failures
  have bytes := fits.amounts .bytes
  have samples := fits.amounts .samples
  have buckets :
      addBucketsIn build metrics.buckets other.buckets =
        .ok (addBuckets metrics.buckets other.buckets) :=
    addBucketsIn_of_fits build (fun index => fits.amounts (.bucket index))
  have errors :
      addCountsIn build metrics.errors other.errors.toPairs = .ok (metrics.merge other).errors :=
    addCountsIn_of_fits build (fun errorClass => fits.amounts (.errors errorClass))
  simp only [Quantity.inMetrics, merge] at total success failure bytes samples
  simp only [mergeIn, build.uint64_of_fits total, build.uint64_of_fits success,
    build.uint64_of_fits failure, build.uint64_of_fits bytes, build.uint64_of_fits samples,
    buckets, errors, ok_bind]
  rfl

theorem latencyIn_of_fits (fits : metrics.Fits) :
    metrics.latencyIn build = .ok metrics.latency := by
  simp only [latencyIn, approxPercentileIn_of_fits build fits.samples, ok_bind]
  rfl

theorem Alike.fits (alike : metrics.Alike other) (fits : other.Fits) : metrics.Fits where
  amounts quantity := by
    rw [alike.amounts]
    exact fits.amounts quantity
  samples := by
    rw [alike.buckets]
    exact fits.samples

theorem sum_buckets (metrics : Metrics Nat) :
    metrics.buckets.sum =
      ((List.range metrics.buckets.length).map
        (fun index => (Quantity.bucket index).inMetrics metrics)).sum := by
  apply congrArg List.sum
  apply List.ext_getElem
  · simp
  · intro index inside inside'
    simp [Quantity.inMetrics, inside]

theorem bucket_le_sum (metrics : Metrics Nat) (index : Nat) :
    (Quantity.bucket index).inMetrics metrics ≤ metrics.buckets.sum := by
  simp only [Quantity.inMetrics]
  cases found : metrics.buckets[index]? with
  | none => exact Nat.zero_le _
  | some count =>
    exact List.single_le_sum (fun count _ => Nat.zero_le count) count (List.mem_of_getElem? found)

theorem inMetrics_gathered_le (width : Nat) {part history : List (Proto.MetricBatch Nat)}
    (within : part.Subperm history) (quantity : Quantity) :
    quantity.inMetrics (gathered width part) ≤ quantity.inMetrics (gathered width history) := by
  obtain ⟨chosen, permuted, sublist⟩ := within
  rw [inMetrics_gathered, inMetrics_gathered, ← (permuted.map _).sum_eq]
  exact (sublist.map _).sum_le_sum (fun amount _ => Nat.zero_le amount)

theorem fits_of_subperm {width : Nat} {part history : List (Proto.MetricBatch Nat)}
    (fits : (gathered width history).Fits) (within : part.Subperm history) :
    (gathered width part).Fits where
  amounts quantity :=
    (fits.amounts quantity).mono (inMetrics_gathered_le width within quantity)
  samples := by
    apply fits.samples.mono
    rw [sum_buckets, sum_buckets]
    have width' : (gathered width part).buckets.length = (gathered width history).buckets.length :=
      (sized_gathered width part).trans (sized_gathered width history).symm
    rw [width']
    exact List.sum_le_sum (fun index _ => inMetrics_gathered_le width within (.bucket index))

theorem Aggregates.fits {width : Nat} {history : List (Proto.MetricBatch Nat)}
    (aggregates : metrics.Aggregates width history) (fits : (gathered width history).Fits) :
    metrics.Fits := by
  obtain ⟨part, within, alike⟩ := aggregates
  exact alike.fits (fits_of_subperm fits within)

end Fits

end Metrics

end Strobengine.Distributed.Master
