import Strobengine.Distributed.Master.Pipeline.Percentile

/-!
# What a report shows of its aggregates

The report, its timeline, its shares and the live snapshots show percentiles of
accumulators: the cumulative one, those of the epochs and of the workers, and those of the
windows.
-/

namespace Strobengine.Distributed.Master

open Foundations Rust
open Proto (MetricBatch LatencySummary)

section Extremes

variable {Count : Type} [Counter Count]

omit [Counter Count] in
theorem Metrics.exists_extreme {choose : ℚ → ℚ → ℚ} (beyond : ℚ → ℚ → Prop)
    (refl : ∀ value, beyond value value)
    (trans : ∀ first second third, beyond first second → beyond second third → beyond first third)
    (left : ∀ first second, beyond (choose first second) first)
    (right : ∀ first second, beyond (choose first second) second)
    (bound : LatencySummary Count → ℚ) {batches : List (MetricBatch Count)}
    {batch : MetricBatch Count} (member : batch ∈ batches)
    {latency : LatencySummary Count} (measured : batch.latency = some latency) :
    ∃ extreme,
      batches.foldl (extremeStep choose bound) none = some extreme ∧
        beyond extreme (bound latency) := by
  induction batches using List.reverseRecOn with
  | nil => cases member
  | append_singleton batches last ih =>
    rw [List.foldl_concat]
    unfold extremeStep extremum at ih ⊢
    rcases List.mem_append.mp member with earlier | here
    · obtain ⟨extreme, found, before⟩ := ih earlier
      rw [found]
      cases last.latency with
      | none => exact ⟨extreme, rfl, before⟩
      | some other => exact ⟨_, rfl, trans _ _ _ (left extreme (bound other)) before⟩
    · rw [← List.mem_singleton.mp here, measured, Option.elim_some]
      cases batches.foldl _ none with
      | none => exact ⟨_, rfl, refl _⟩
      | some extreme => exact ⟨_, rfl, right extreme (bound latency)⟩

variable {bucketCount : Nat} {batches : List (MetricBatch Count)}
  {batch : MetricBatch Count} (member : batch ∈ batches)
  {latency : LatencySummary Count} (measured : batch.latency = some latency)

include member measured

theorem Metrics.exists_minMs_gathered :
    ∃ minimum, (gathered bucketCount batches).minMs = some minimum ∧ minimum ≤ latency.minMs := by
  rw [minMs_gathered]
  exact
    exists_extreme (fun first second => first ≤ second) le_refl (fun _ _ _ => le_trans) min_le_left
      min_le_right
      LatencySummary.minMs member measured

theorem Metrics.exists_maxMs_gathered :
    ∃ maximum, (gathered bucketCount batches).maxMs = some maximum ∧ latency.maxMs ≤ maximum := by
  rw [maxMs_gathered]
  exact
    exists_extreme (fun first second => second ≤ first) le_refl
      (fun _ _ _ first second => second.trans first) le_max_left le_max_right
      LatencySummary.maxMs member measured

end Extremes

def Metrics.Aggregates
    {Count : Type} [Counter Count] (width : Nat) (history : List (MetricBatch Count))
    (metrics : Metrics Count) : Prop :=
  ∃ part, part.Subperm history ∧ metrics.Alike (gathered width part)

namespace TelemetryPipeline

section Aggregates

variable {Count : Type} [Counter Count]
  {run : String} {width : Nat} {history : List (MetricBatch Count)}
  {pipeline : TelemetryPipeline Count} (holds : Holds run width history pipeline)

include holds

theorem aggregates_cumulative : pipeline.cumulative.Aggregates width history :=
  ⟨history, List.Subperm.refl _, holds.cumulative ▸ Metrics.Alike.refl _⟩

theorem aggregates_epoch {entry : Int × Metrics Count} (member : entry ∈ pipeline.sortedEpochs) :
    entry.2.Aggregates width history := by
  refine ⟨HashMap.members epochKey entry.1 history, List.filter_sublist.subperm, ?_⟩
  rw [(gathered_of_mem_sortedEpochs holds member).2]
  exact Metrics.Alike.refl _

theorem aggregates_worker {workerId : String} {metrics : Metrics Count}
    (found : pipeline.workers.lookup workerId = some metrics) :
    metrics.Aggregates width history := by
  rw [holds.workers, HashMap.lookup_foldl_collect, HashMap.accumulated] at found
  split at found
  · cases found
  · refine ⟨HashMap.members workerKey workerId history, List.filter_sublist.subperm, ?_⟩
    rw [← Option.some.inj found]
    exact Metrics.Alike.refl _

theorem aggregates_merged_epochs
    {entries : List (Int × Metrics Count)} (sublist : entries.Sublist pipeline.sortedEpochs) :
    (entries.foldl (fun window entry => Metrics.merge window entry.2)
      (Metrics.new width)).Aggregates width history :=
  ⟨_, List.filter_sublist.subperm, alike_merged_epochs holds sublist⟩

theorem aggregates_window (epoch : Int) :
    (pipeline.windowMetrics epoch).Aggregates width history := by
  rw [windowMetrics, holds.bucketCount]
  exact aggregates_merged_epochs holds List.filter_sublist

end Aggregates

end TelemetryPipeline

section Shown

variable {Count : Type}

def GlobalLatency.percentiles (latency : GlobalLatency Count) : List Float64 :=
  [latency.p50Ms, latency.p90Ms, latency.p95Ms, latency.p99Ms]

def TimelinePoint.percentiles (point : TimelinePoint) : List Float64 :=
  [point.p50Ms, point.p95Ms, point.p99Ms]

def WorkerShare.percentiles (share : WorkerShare Count) : List Float64 :=
  [share.p95Ms]

def LiveSnapshot.percentiles (snapshot : LiveSnapshot Count) : List Float64 :=
  [snapshot.p50Ms, snapshot.p90Ms, snapshot.p95Ms, snapshot.p99Ms]

variable [Counter Count]

structure TelemetryPipeline.ShownAll
    (pipeline : TelemetryPipeline Count) (property : Metrics Count → List Float64 → Prop) :
    Prop where
  report : property pipeline.cumulative pipeline.finalize.latency.percentiles
  timeline :
    ∀ point ∈ pipeline.finalize.timeline,
      ∃ metrics,
        pipeline.epochs.lookup point.epochMs = some metrics ∧ property metrics point.percentiles
  shares :
    ∀ share ∈ pipeline.finalize.workerShares,
      ∃ metrics,
        pipeline.workers.lookup share.workerId = some metrics ∧ property metrics share.percentiles
  snapshots : ∀ epoch, property (pipeline.windowMetrics epoch) (pipeline.snapshot epoch).percentiles

theorem TelemetryPipeline.shownAll_of_aggregates
    {run : String} {width : Nat} {history : List (MetricBatch Count)}
    {pipeline : TelemetryPipeline Count} (holds : Holds run width history pipeline)
    {property : Metrics Count → List Float64 → Prop}
    (aggregates :
      ∀ metrics : Metrics Count, metrics.Aggregates width history →
        ∀ shown, shown.Sublist metrics.latency.percentiles → property metrics shown) :
    pipeline.ShownAll property where
  report := aggregates _ (aggregates_cumulative holds) _ (List.Sublist.refl _)
  timeline := by
    intro point listed
    obtain ⟨entry, member, rfl⟩ := List.mem_map.mp listed
    have pair : (entry.1, entry.2) ∈ pipeline.epochs.toPairs := (List.mem_insertionSort _).mp member
    refine ⟨entry.2, (HashMap.mem_toPairs_iff _ _ _).mp pair, ?_⟩
    exact aggregates _ (aggregates_epoch holds member) _
      (.cons_cons _ (.cons _ (List.Sublist.refl _)))
  shares := by
    intro share listed
    have unsorted := (List.mem_insertionSort _).mp listed
    obtain ⟨entry, member, rfl⟩ := List.mem_map.mp unsorted
    have found := (HashMap.mem_toPairs_iff _ entry.1 entry.2).mp member
    refine ⟨entry.2, found, ?_⟩
    exact aggregates _ (aggregates_worker holds found) _
      (.cons _ (.cons _ (.cons_cons _ (List.nil_sublist _))))
  snapshots := fun epoch =>
    aggregates _ (aggregates_window holds epoch) _ (List.Sublist.refl _)

end Shown

theorem lt_ten_of_filled {buckets : List Nat} (worker : InWorkerBuckets buckets) {index : Nat}
    (filled : 0 < buckets.getD index 0) : index < 10 := by
  apply Nat.lt_of_not_le
  intro outside
  rw [worker index outside] at filled
  exact absurd filled (Nat.lt_irrefl 0)

namespace Metrics

def fallbackMax {Count : Type} (metrics : Metrics Count) : Float64 :=
  metrics.maxMs.elim .infinity .finite

def BatchInWorkerBuckets (batch : MetricBatch Nat) : Prop :=
  ∀ latency, batch.latency = some latency → InWorkerBuckets latency.bucketCounts

variable {width : Nat} {history : List (MetricBatch Nat)} {metrics : Metrics Nat}

theorem exists_batch_of_sample (aggregates : metrics.Aggregates width history) {index : Nat}
    (filled : 0 < metrics.buckets.getD index 0) :
    ∃ batch ∈ history, ∃ latency,
      batch.latency = some latency ∧ 0 < latency.bucketCounts.getD index 0 ∧
        (∃ minimum, metrics.minMs = some minimum ∧ minimum ≤ latency.minMs) ∧
        ∃ maximum, metrics.maxMs = some maximum ∧ latency.maxMs ≤ maximum := by
  obtain ⟨part, included, alike⟩ := aggregates
  rw [alike.buckets, List.getD_eq_getElem?_getD] at filled
  have amount := inMetrics_gathered width part (.bucket index)
  simp only [Quantity.inMetrics] at amount
  rw [amount] at filled
  obtain ⟨count, counted, positive⟩ :
      ∃ count ∈ part.map (fun batch => Quantity.inBatch width batch (.bucket index)),
        0 < count := by
    by_contra none
    have zero : ∀ count ∈ part.map _, count = 0 := fun count member =>
      Nat.eq_zero_of_not_pos (fun positive => none ⟨count, member, positive⟩)
    exact absurd (List.sum_eq_zero zero) (Nat.pos_iff_ne_zero.mp filled)
  obtain ⟨batch, member, rfl⟩ := List.mem_map.mp counted
  simp only [Quantity.inBatch] at positive
  split at positive
  · cases measured : batch.latency with
    | none =>
      rw [measured] at positive
      exact absurd positive (Nat.lt_irrefl 0)
    | some latency =>
      rw [measured, Option.elim_some, ← List.getD_eq_getElem?_getD] at positive
      refine ⟨batch, included.subset member, latency, measured, positive, ?_, ?_⟩
      · rw [alike.minMs]
        exact exists_minMs_gathered member measured
      · rw [alike.maxMs]
        exact exists_maxMs_gathered member measured
  · exact absurd positive (Nat.lt_irrefl 0)

theorem boundedBucket_of_aggregates (aggregates : metrics.Aggregates width history)
    (worker : ∀ batch ∈ history, BatchInWorkerBuckets batch)
    (index : Nat) (filled : 0 < metrics.buckets.getD index 0) :
    BoundedBucket metrics.fallbackMax (metrics.maxMs.getD 0) index := by
  obtain ⟨batch, member, latency, measured, positive, _, maximum, known, _⟩ :=
    exists_batch_of_sample aggregates filled
  have inside := lt_ten_of_filled (worker batch member latency measured) positive
  rcases Nat.lt_or_eq_of_le (Nat.le_of_lt_succ inside) with inner | last
  · exact Or.inl inner
  · refine Or.inr ⟨last, ?_⟩
    rw [fallbackMax, known]
    rfl

def reportedRanks : List ℚ :=
  [50 / 100, 90 / 100, 95 / 100, 99 / 100]

theorem percentiles_eq (metrics : Metrics Nat) :
    metrics.latency.percentiles =
      reportedRanks.map
        (fun percentile => approxPercentile metrics.buckets percentile metrics.fallbackMax) :=
  rfl

theorem percentiles_pairwise
    (bounded :
      ∀ index, 0 < metrics.buckets.getD index 0 →
        BoundedBucket metrics.fallbackMax (metrics.maxMs.getD 0) index) :
    metrics.latency.percentiles.Pairwise (· ≤ ·) := by
  have ranks :
      reportedRanks.Pairwise (fun lower upper => 0 ≤ lower ∧ lower ≤ upper ∧ upper ≤ 1) := by
    decide +kernel
  rw [percentiles_eq, List.pairwise_map]
  apply ranks.imp
  rintro lower upper ⟨nonneg, ordered, atMost⟩
  exact approxPercentile_mono bounded nonneg ordered atMost

end Metrics

/-- What `approx_percentile` computes from a histogram whose largest sample is `maximum`. -/
structure FollowsRanks (buckets : List Nat) (maximum : ℚ) : Prop where
  ascending :
    ∀ lower upper, 0 ≤ lower → lower ≤ upper → upper ≤ 1 →
      approxPercentile buckets lower (.finite maximum) ≤
        approxPercentile buckets upper (.finite maximum)
  within :
    ∀ percentile, 0 ≤ percentile → percentile ≤ 1 →
      ∃ index value,
        index < 10 ∧ HoldsRank buckets (rankOf buckets percentile) index ∧
          approxPercentile buckets percentile (.finite maximum) = .finite value ∧
          (bucketScale maximum).mark index ≤ value ∧
          value ≤ (bucketScale maximum).mark (index + 1)
  -- the scan returns in that bucket, so that its trailing `fallback_max` is not reached
  returned :
    ∀ percentile index,
      HoldsRank buckets (rankOf buckets percentile) index →
        ∀ fallbackMax,
          approxPercentile buckets percentile fallbackMax =
            interpolate ((bucketBoundsMs[index]?).getD (.finite 0))
              ((bucketBoundsMs[index + 1]?).getD fallbackMax) fallbackMax
              (rankShare buckets (rankOf buckets percentile) index)

theorem boundedBucket_of_filled
    {buckets : List Nat} (worker : InWorkerBuckets buckets) (maximum : ℚ) (index : Nat)
    (filled : 0 < buckets.getD index 0) : BoundedBucket (.finite maximum) maximum index := by
  have inside := lt_ten_of_filled worker filled
  rcases Nat.lt_or_eq_of_le (Nat.le_of_lt_succ inside) with inner | last
  · exact Or.inl inner
  · exact Or.inr ⟨last, rfl⟩

theorem followsRanks
    {buckets : List Nat} (sampled : 0 < buckets.sum) (worker : InWorkerBuckets buckets)
    (maximum : ℚ) : FollowsRanks buckets maximum where
  ascending := fun _ _ nonneg ordered atMost =>
    approxPercentile_mono (boundedBucket_of_filled worker maximum) nonneg ordered atMost
  within := by
    intro percentile nonneg atMost
    obtain ⟨index, value, held, computed, _, above, below⟩ :=
      exists_approxPercentile sampled (boundedBucket_of_filled worker maximum) nonneg atMost
    exact ⟨index, value, lt_ten_of_filled worker held.filled, held, computed, above, below⟩
  returned := fun _ _ held fallbackMax =>
    approxPercentile_of_holdsRank sampled held fallbackMax

/-- For every histogram with samples in worker buckets only, percentiles ascend, lie in
the bucket that holds their rank, and are returned from there. The percentiles that a
report, its timeline and the live snapshots show therefore ascend, whatever was
ingested. -/
theorem percentiles_follow_ranks
    (buckets : List Nat) (sampled : 0 < buckets.sum) (worker : InWorkerBuckets buckets)
    (maximum : ℚ) :
    FollowsRanks buckets maximum ∧
      ∀ (runId : String) (bucketCount : Nat) (windowEpochs : Int)
        (batches : List (MetricBatch Nat)),
        (∀ batch ∈ batches, Metrics.BatchInWorkerBuckets batch) →
          TelemetryPipeline.ShownAll
            ((TelemetryPipeline.new runId bucketCount windowEpochs).ingestAll batches)
            (fun _ shown => shown.Pairwise (· ≤ ·)) := by
  refine ⟨followsRanks sampled worker maximum, ?_⟩
  intro runId bucketCount windowEpochs batches inBuckets
  apply TelemetryPipeline.shownAll_of_aggregates
    (TelemetryPipeline.holds_ingestAll runId bucketCount windowEpochs batches)
  intro metrics aggregates shown sublist
  have bounded := Metrics.boundedBucket_of_aggregates aggregates inBuckets
  exact (Metrics.percentiles_pairwise bounded).sublist sublist

theorem percentiles_follow_ranks_sample : FollowsRanks [0, 1, 0, 0, 0, 0, 0, 0, 0, 2] 1500 := by
  have worker : InWorkerBuckets [0, 1, 0, 0, 0, 0, 0, 0, 0, 2] := by
    intro index outside
    exact List.getD_eq_default _ _ outside
  exact (percentiles_follow_ranks _ (by decide) worker 1500).1

end Strobengine.Distributed.Master
