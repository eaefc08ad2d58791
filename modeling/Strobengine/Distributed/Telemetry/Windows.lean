import Strobengine.Distributed.Telemetry
import Mathlib.Data.List.Induction
import Mathlib.Algebra.BigOperators.Group.List.Basic

/-!
# The windows of a collector

A collector is called in any order. The batches that were emitted and the window that is still open
divide what was recorded.
-/

namespace Strobengine.Metrics

def HdrStatistics.CountsEach (hdr : HdrStatistics) : Prop :=
  ∀ histogram, ((hdr.iterRecorded histogram).map Prod.snd).sum = histogram.length

/-- Statistics in which every value is its own class, with its extremes. -/
def HdrStatistics.exact : HdrStatistics :=
  { HdrStatistics.sample with
    minimum := fun histogram => histogram.min?.getD 0
    maximum := fun histogram => histogram.max?.getD 0
    iterRecorded := fun histogram => histogram.map (fun value => (value, 1)) }

theorem countsEach_exact : HdrStatistics.exact.CountsEach := by
  intro histogram
  simp [HdrStatistics.exact, Function.comp_def]

theorem bucketKey_mem (ms : ℚ) : bucketKey ms ∈ histogramBucketOrder := by
  unfold bucketKey
  repeat' split
  all_goals simp [histogramBucketOrder]

theorem nodup_histogramBucketOrder : histogramBucketOrder.Nodup := by
  decide

theorem sum_map_ite_of_mem {Key : Type} [DecidableEq Key]
    {keys : List Key} (distinct : keys.Nodup) {key : Key} (member : key ∈ keys) (count : Nat) :
    (keys.map (fun other => if key = other then count else 0)).sum = count := by
  induction keys with
  | nil => cases member
  | cons first rest ih =>
    obtain ⟨fresh, distinctRest⟩ := List.nodup_cons.mp distinct
    rw [List.map_cons, List.sum_cons]
    by_cases here : key = first
    · have others : ∀ other ∈ rest, (if key = other then count else 0) = 0 := by
        intro other otherMember
        rw [if_neg]
        intro same
        rw [here] at same
        exact fresh (same ▸ otherMember)
      rw [if_pos here, List.map_congr_left others]
      simp
    · rw [if_neg here, zero_add]
      exact ih distinctRest ((List.mem_cons.mp member).resolve_left here)

theorem sum_histogramBuckets
    {hdr : HdrStatistics} (counts : hdr.CountsEach) (histogram : Histogram) :
    (histogramBuckets hdr histogram).sum = histogram.length := by
  rw [← counts histogram]
  unfold histogramBuckets calculateHistogramFromHdr
  induction hdr.iterRecorded histogram using List.reverseRecOn with
  | nil => simp
  | append_singleton entries entry ih =>
    have split :
        ∀ (key : String) (count : Nat),
          (if bucketKey ((entry.1 : ℚ) / microsPerMilli) = key then count + entry.2
            else count) =
            count + if bucketKey ((entry.1 : ℚ) / microsPerMilli) = key then entry.2 else 0 := by
      intro key count
      split_ifs <;> rfl
    simp only [List.foldl_concat, split]
    rw [List.sum_map_add, ih, sum_map_ite_of_mem nodup_histogramBucketOrder (bucketKey_mem _)]
    simp

end Strobengine.Metrics

namespace Strobengine.Distributed

open Metrics

structure BatchConsistent (batch : Proto.MetricBatch Nat) : Prop where
  outcomes : batch.totalRequests = batch.successCount + batch.failureCount
  errors : (batch.errors.map Proto.ErrorBreakdown.count).sum = batch.failureCount
  latencies :
    ∃ latency,
      batch.latency = some latency ∧ latency.sampleCount = batch.totalRequests ∧
        latency.bucketCounts.sum = latency.sampleCount

def recordedLatency (metric : RequestMetric) : Nat :=
  min (min metric.latencyMicros (2 ^ 64 - 1)) histogramHighestTrackable

/-- The batch describes the metrics of the list and no others. -/
structure BatchDescribes
    (hdr : HdrStatistics) (batch : Proto.MetricBatch Nat) (window : List RequestMetric) :
    Prop where
  counts : BatchCounts batch window
  errors :
    ∀ errorClass,
      ((batch.errors.filter (fun entry => entry.errorClass = errorClass)).map
        Proto.ErrorBreakdown.count).sum =
        window.countP (fun metric =>
          metric.isError &&
            decide ((classifyError metric.statusCode).toWire = errorClass))
  latencies : batch.latency = some (latencySummary hdr (window.map recordedLatency))

def errorTotal (errors : ErrorTallies) : Nat :=
  (errors.map (fun entry => entry.2.1)).sum

theorem errorTotal_bumpError (bumped : Int) (errors : ErrorTallies) :
    errorTotal (bumpError bumped errors) = errorTotal errors + 1 := by
  induction errors with
  | nil => rfl
  | cons entry rest ih =>
    obtain ⟨tallied, count, detail⟩ := entry
    unfold errorTotal at ih ⊢
    rw [bumpError]
    split
    · simp only [List.map_cons, List.sum_cons]
      omega
    · simp only [List.map_cons, List.sum_cons, ih]
      omega

theorem sampleCount_latencySummary (hdr : HdrStatistics) (histogram : Histogram) :
    (latencySummary hdr histogram).sampleCount = histogram.length := by
  unfold latencySummary
  split
  · rename_i empty
    rw [empty]
    rfl
  · rfl

theorem sum_bucketCounts_latencySummary
    {hdr : HdrStatistics} (counts : hdr.CountsEach) (histogram : Histogram) :
    (latencySummary hdr histogram).bucketCounts.sum = histogram.length := by
  unfold latencySummary
  split
  · rename_i empty
    rw [empty]
    rfl
  · exact sum_histogramBuckets counts histogram

namespace WindowedCollector

/-- What the open window holds, with the recorded latencies and all errors. -/
structure Holds (collector : WindowedCollector) (window : List RequestMetric) : Prop where
  accumulates : Accumulates collector window
  latencies : collector.histogram = window.map recordedLatency
  failures : errorTotal collector.errors = collector.failure

theorem holds_new (workerId testRunId : String) (windowMs : Nat) (now : Int) :
    Holds (new workerId testRunId windowMs now) [] where
  accumulates := accumulates_new workerId testRunId windowMs 0 now
  latencies := rfl
  failures := rfl

theorem holds_nextWindow (collector : WindowedCollector) (now : Int) :
    Holds (collector.nextWindow now) [] where
  accumulates := accumulates_nextWindow collector now
  latencies := rfl
  failures := rfl

variable {collector : WindowedCollector} {window : List RequestMetric}

theorem Holds.record (holds : Holds collector window) (metric : RequestMetric) :
    Holds (collector.record metric) (window ++ [metric]) where
  accumulates := holds.accumulates.record metric
  latencies := by
    rw [List.map_append, ← holds.latencies]
    rfl
  failures := by
    cases failed : metric.isError with
    | false => simp [WindowedCollector.record, failed, holds.failures]
    | true => simp [WindowedCollector.record, failed, errorTotal_bumpError, holds.failures]

theorem Holds.setActiveVus (holds : Holds collector window) (activeVus : Nat) :
    Holds (collector.setActiveVus activeVus) window where
  accumulates :=
    { total := holds.accumulates.total
      success := holds.accumulates.success
      failure := holds.accumulates.failure
      bytesReceived := holds.accumulates.bytesReceived
      samples := holds.accumulates.samples
      errors := holds.accumulates.errors }
  latencies := holds.latencies
  failures := holds.failures

theorem Holds.consistent
    (holds : Holds collector window) {hdr : HdrStatistics} (counts : hdr.CountsEach) :
    BatchConsistent (collector.currentBatch hdr) where
  outcomes := by
    have all := List.length_eq_countP_add_countP RequestMetric.isError (l := window)
    change collector.total = collector.success + collector.failure
    rw [holds.accumulates.total, holds.accumulates.success, holds.accumulates.failure, all,
      Nat.add_comm]
    simp
  errors := by
    rw [← show errorTotal collector.errors = (collector.currentBatch hdr).failureCount from
      holds.failures]
    simp [currentBatch, errorTotal, Function.comp_def]
  latencies := by
    refine ⟨latencySummary hdr collector.histogram, rfl, ?_, ?_⟩
    · rw [sampleCount_latencySummary, holds.accumulates.samples]
      exact holds.accumulates.total.symm
    · rw [sum_bucketCounts_latencySummary counts, sampleCount_latencySummary]

theorem Holds.describes (holds : Holds collector window) (hdr : HdrStatistics) :
    BatchDescribes hdr (collector.currentBatch hdr) window where
  counts := holds.accumulates.currentBatch hdr
  errors := by
    intro errorClass
    rw [← holds.accumulates.errors errorClass]
    simp [currentBatch, errorCount, List.filter_map, Function.comp_def]
  latencies := by
    rw [← holds.latencies]
    rfl

inductive Call where
  | record (metric : RequestMetric)
  | setActiveVus (activeVus : Nat)
  | takeBatch (now : Int)

/-- A collector with the metrics that it was given and the batches that it has emitted. -/
structure Collection where
  collector : WindowedCollector
  recorded : List RequestMetric
  emitted : List (Proto.MetricBatch Nat)

namespace Collection

def new (workerId testRunId : String) (windowMs : Nat) (now : Int) : Collection :=
  { collector := WindowedCollector.new workerId testRunId windowMs now
    recorded := []
    emitted := [] }

def call (hdr : HdrStatistics) (collection : Collection) : Call → Collection
  | .record metric =>
    { collection with
      collector := collection.collector.record metric
      recorded := collection.recorded ++ [metric] }
  | .setActiveVus activeVus =>
    { collection with collector := collection.collector.setActiveVus activeVus }
  | .takeBatch now =>
    match collection.collector.takeBatch hdr now with
    | none => collection
    | some (batch, next) =>
      { collection with
        collector := next
        emitted := collection.emitted ++ [batch] }

structure Divides
    (hdr : HdrStatistics) (collection : Collection) (windows : List (List RequestMetric))
    (current : List RequestMetric) : Prop where
  parts : collection.recorded = windows.flatten ++ current
  batches : List.Forall₂ (BatchDescribes hdr) collection.emitted windows
  nonempty : ∀ window ∈ windows, window ≠ []
  current : collection.collector.Holds current
  sequence : collection.collector.batchSeq = collection.emitted.length
  ids :
    collection.emitted.map Proto.MetricBatch.batchId =
      (List.range collection.emitted.length).map toString
  consistent : hdr.CountsEach → ∀ batch ∈ collection.emitted, BatchConsistent batch

theorem divides_new
    (hdr : HdrStatistics) (workerId testRunId : String) (windowMs : Nat) (now : Int) :
    Divides hdr (new workerId testRunId windowMs now) [] [] where
  parts := rfl
  batches := .nil
  nonempty := by
    intro window member
    cases member
  current := holds_new workerId testRunId windowMs now
  sequence := rfl
  ids := rfl
  consistent := by
    intro _ batch member
    cases member

variable {hdr : HdrStatistics} {collection : Collection}
  {windows : List (List RequestMetric)} {current : List RequestMetric}

theorem Divides.record (divides : Divides hdr collection windows current) (metric : RequestMetric) :
    Divides hdr (collection.call hdr (.record metric)) windows (current ++ [metric]) where
  parts := by
    change collection.recorded ++ [metric] = _
    rw [divides.parts, List.append_assoc]
  batches := divides.batches
  nonempty := divides.nonempty
  current := divides.current.record metric
  sequence := divides.sequence
  ids := divides.ids
  consistent := divides.consistent

theorem Divides.setActiveVus (divides : Divides hdr collection windows current) (activeVus : Nat) :
    Divides hdr (collection.call hdr (.setActiveVus activeVus)) windows current where
  parts := divides.parts
  batches := divides.batches
  nonempty := divides.nonempty
  current := divides.current.setActiveVus activeVus
  sequence := divides.sequence
  ids := divides.ids
  consistent := divides.consistent

theorem Divides.cut
    (divides : Divides hdr collection windows current) (now : Int) (filled : current ≠ []) :
    Divides hdr
      { collection with
        collector := collection.collector.nextWindow now
        emitted := collection.emitted ++ [collection.collector.currentBatch hdr] }
      (windows ++ [current]) [] where
  parts := by
    simpa using divides.parts
  batches := by
    apply List.rel_append divides.batches
    exact .cons (divides.current.describes hdr) .nil
  nonempty := by
    intro window member
    rcases List.mem_append.mp member with old | new
    · exact divides.nonempty window old
    · rw [List.mem_singleton.mp new]
      exact filled
  current := holds_nextWindow collection.collector now
  sequence := by
    simp only [List.length_append, List.length_singleton, ← divides.sequence]
    rfl
  ids := by
    simp only [List.map_append, List.length_append, List.length_singleton, List.range_succ,
      divides.ids, ← divides.sequence]
    rfl
  consistent := by
    intro counts batch member
    rcases List.mem_append.mp member with old | new
    · exact divides.consistent counts batch old
    · rw [List.mem_singleton.mp new]
      exact divides.current.consistent counts

theorem Divides.call (divides : Divides hdr collection windows current) (call : Call) :
    ∃ windows current, Divides hdr (collection.call hdr call) windows current := by
  cases call with
  | record metric => exact ⟨windows, current ++ [metric], divides.record metric⟩
  | setActiveVus activeVus => exact ⟨windows, current, divides.setActiveVus activeVus⟩
  | takeBatch now =>
    cases taken : collection.collector.takeBatch hdr now with
    | none =>
      -- an empty window emits nothing
      refine ⟨windows, current, ?_⟩
      rw [Collection.call, taken]
      exact divides
    | some =>
      have full : collection.collector.total ≠ 0 := by
        intro zero
        rw [takeBatch, if_pos zero] at taken
        cases taken
      have filled : current ≠ [] := by
        intro empty
        rw [divides.current.accumulates.total, empty] at full
        exact full rfl
      rw [takeBatch, if_neg full] at taken
      cases taken
      refine ⟨windows ++ [current], [], ?_⟩
      rw [Collection.call, takeBatch, if_neg full]
      exact divides.cut now filled

theorem exists_divides
    (hdr : HdrStatistics) (workerId testRunId : String) (windowMs : Nat) (now : Int)
    (calls : List Call) :
    ∃ windows current,
      Divides hdr (calls.foldl (call hdr) (new workerId testRunId windowMs now)) windows
        current := by
  induction calls using List.reverseRecOn with
  | nil => exact ⟨[], [], divides_new hdr workerId testRunId windowMs now⟩
  | append_singleton earlier last ih =>
    obtain ⟨windows, current, divides⟩ := ih
    rw [List.foldl_concat]
    exact divides.call last

/-- For every sequence of calls: every emitted batch agrees with itself, the batch ids are
consecutive, and the emitted batches together with the open window divide the recorded
metrics. -/
theorem batches_partition_recorded (hdr : HdrStatistics) (counts : hdr.CountsEach)
    (workerId testRunId : String) (windowMs : Nat) (now : Int) (calls : List Call) :
    let final := calls.foldl (call hdr) (new workerId testRunId windowMs now)
    (∀ batch ∈ final.emitted, BatchConsistent batch) ∧
      final.emitted.map Proto.MetricBatch.batchId = (List.range final.emitted.length).map toString ∧
      ∃ windows current,
        final.recorded = windows.flatten ++ current ∧
          List.Forall₂ (BatchDescribes hdr) final.emitted windows ∧
          (∀ window ∈ windows, window ≠ []) ∧
          final.collector.Accumulates current := by
  intro final
  obtain ⟨windows, current, divides⟩ := exists_divides hdr workerId testRunId windowMs now calls
  exact
    ⟨divides.consistent counts, divides.ids, windows, current, divides.parts,
      divides.batches, divides.nonempty, divides.current.accumulates⟩

def fourRecords : List Call :=
  [.record { latencyMicros := 700, statusCode := 200 },
    .record { latencyMicros := 90000, statusCode := 503 }, .takeBatch 1000, .takeBatch 2000,
    .record { latencyMicros := 1200 }, .takeBatch 3000,
    .record { latencyMicros := 4, statusCode := 204 }]

theorem batches_partition_recorded_sample :
    let final := fourRecords.foldl (call HdrStatistics.exact) (new "w" "run" 1000 0)
    final.emitted.length = 2 ∧ final.recorded.length = 4 ∧
      (∀ batch ∈ final.emitted, BatchConsistent batch) ∧
      final.emitted.map Proto.MetricBatch.batchId = ["0", "1"] := by
  obtain ⟨consistent, ids, _⟩ :=
    batches_partition_recorded HdrStatistics.exact countsEach_exact "w" "run" 1000 0 fourRecords
  exact ⟨by decide +kernel, by decide +kernel, consistent, ids⟩

end Collection

end WindowedCollector

end Strobengine.Distributed
