import Strobengine.Distributed.Master.Pipeline.Conservation
import Strobengine.Distributed.Telemetry.Classes

/-!
# From the requests to the report

The workers fold their requests into batches and the master folds the batches into a report.
-/

namespace Strobengine.Distributed.Master

open Strobengine.Metrics WindowedCollector

namespace Quantity

def inRequests (requests : List RequestMetric) : Quantity → Nat
  | .requests | .samples => requests.length
  | .successes => requests.countP (fun metric => !metric.isError)
  | .failures => requests.countP RequestMetric.isError
  | .bytes => (requests.map RequestMetric.bytesReceived).sum
  | .bucket index =>
    requests.countP (fun metric =>
      histogramBucketOrder[index]? = some (bucketOf (highestEquivalent (recordedLatency metric))))
  | .errors errorClass =>
    requests.countP (fun metric =>
      metric.isError && decide ((classifyError metric.statusCode).toWire = errorClass))

/-- The report has room for the bucket; the other quantities need none. -/
def Shown (bucketCount : Nat) : Quantity → Prop
  | .bucket index => index < histogramBucketOrder.length → index < bucketCount
  | _ => True

theorem inRequests_flatten (windows : List (List RequestMetric)) (quantity : Quantity) :
    quantity.inRequests windows.flatten =
      (windows.map (fun window => quantity.inRequests window)).sum := by
  cases quantity <;>
    simp [inRequests, List.countP_flatten, List.length_flatten, List.map_flatten, List.sum_flatten,
      Function.comp_def]

variable {hdr : HdrStatistics} {bucketCount : Nat} {quantity : Quantity}

theorem inBatch_of_describes (classes : hdr.ListsClasses) (shown : quantity.Shown bucketCount)
    {batch : Proto.MetricBatch Nat} {window : List RequestMetric}
    (describes : BatchDescribes hdr batch window) (nonempty : window ≠ []) :
    quantity.inBatch bucketCount batch = quantity.inRequests window := by
  have latencies : window.map recordedLatency ≠ [] := by simpa using nonempty
  cases quantity with
  | requests => exact describes.counts.total
  | successes => exact describes.counts.success
  | failures => exact describes.counts.failure
  | bytes => exact describes.counts.bytesReceived
  | samples => simp [inBatch, inRequests, describes.latencies, latencySummary, nonempty]
  | errors errorClass => exact describes.errors errorClass
  | bucket index =>
    simp only [inBatch, inRequests, describes.latencies, Option.elim, latencySummary,
      if_neg latencies, histogramBuckets, List.getElem?_map]
    cases found : histogramBucketOrder[index]? with
    | none => simp
    | some key =>
      have within := (List.getElem?_eq_some_iff.mp found).1
      rw [if_pos (shown within)]
      simp [calculateHistogramFromHdr_eq classes, List.countP_map, Function.comp_def, eq_comm]

theorem sum_inBatch (classes : hdr.ListsClasses) (shown : quantity.Shown bucketCount)
    {batches : List (Proto.MetricBatch Nat)} {windows : List (List RequestMetric)}
    (described : List.Forall₂ (BatchDescribes hdr) batches windows)
    (nonempty : ∀ window ∈ windows, window ≠ []) :
    (batches.map (fun batch => quantity.inBatch bucketCount batch)).sum =
      quantity.inRequests windows.flatten := by
  rw [inRequests_flatten]
  induction described with
  | nil => rfl
  | cons describes _ ih =>
    obtain ⟨here, later⟩ := List.forall_mem_cons.mp nonempty
    rw [List.map_cons, List.map_cons, List.sum_cons, List.sum_cons, ih later,
      inBatch_of_describes classes shown describes here]

end Quantity

/-- A collector that was called in any order and whose last window was cut. -/
def Flushed (hdr : HdrStatistics) (collection : Collection) : Prop :=
  collection.collector.total = 0 ∧
    ∃ workerId testRunId windowMs now, ∃ calls : List Call,
      calls.foldl (Collection.call hdr) (.new workerId testRunId windowMs now) = collection

variable {hdr : HdrStatistics} {bucketCount : Nat} {quantity : Quantity}

theorem Flushed.inBatches {collection : Collection} (flushed : Flushed hdr collection)
    (classes : hdr.ListsClasses) (shown : quantity.Shown bucketCount) :
    (collection.emitted.map (fun batch => quantity.inBatch bucketCount batch)).sum =
      quantity.inRequests collection.recorded := by
  obtain ⟨empty, workerId, testRunId, windowMs, now, calls, rfl⟩ := flushed
  obtain ⟨windows, current, divides⟩ :=
    Collection.exists_divides hdr workerId testRunId windowMs now calls
  have closed : current = [] :=
    List.eq_nil_of_length_eq_zero (divides.current.accumulates.total.symm.trans empty)
  rw [divides.parts, closed, List.append_nil]
  exact Quantity.sum_inBatch classes shown divides.batches divides.nonempty

/-- Whatever the windows of the workers were and in whatever order their batches have arrived,
every count that the report shows is the count over all requests. -/
theorem report_accounts_for_requests
    (classes : hdr.ListsClasses) (runId : String) (windowEpochs : Int)
    {collections : List Collection}
    (flushed : ∀ collection ∈ collections, Flushed hdr collection)
    {batches : List (Proto.MetricBatch Nat)}
    (delivered : batches.Perm (collections.flatMap Collection.emitted))
    (shown : quantity.Shown bucketCount) :
    quantity.inReport
        ((TelemetryPipeline.new runId bucketCount windowEpochs).ingestAll batches).finalize =
      quantity.inRequests (collections.flatMap Collection.recorded) := by
  have room : quantity.Shown (max bucketCount 1) := by
    cases quantity with
    | bucket => exact fun within => (shown within).trans_le (Nat.le_max_left _ _)
    | _ => trivial
  have holds := TelemetryPipeline.holds_ingestAll runId bucketCount windowEpochs batches
  rw [TelemetryPipeline.inReport_finalize, holds.cumulative, Metrics.inMetrics_gathered,
    (delivered.map _).sum_eq, List.flatMap_def, List.flatMap_def, Quantity.inRequests_flatten,
    List.map_flatten, List.sum_flatten, List.map_map, List.map_map, List.map_map]
  exact congrArg List.sum
    (List.map_congr_left fun collection member =>
      (flushed collection member).inBatches classes room)

def twoCollections : List Collection :=
  [[.record { latencyMicros := 700, statusCode := 200 }, .takeBatch 1000,
      .record { latencyMicros := 90000, statusCode := 503 }, .takeBatch 2000],
    [.record { latencyMicros := 1200, statusCode := 404 }, .takeBatch 1500]].map
      (List.foldl (Collection.call .threeFigures) (.new "w" "run" 1000 0))

theorem report_accounts_for_requests_sample :
    Quantity.inReport
      ((TelemetryPipeline.new "run" 3 1).ingestAll
        (twoCollections.flatMap Collection.emitted).reverse).finalize (.bucket 1) = 1 := by
  have flushed : ∀ collection ∈ twoCollections, Flushed .threeFigures collection := by
    intro collection member
    refine ⟨?_, "w", "run", 1000, 0, ?_⟩
    · revert collection
      decide +kernel
    · obtain ⟨calls, _, same⟩ := List.mem_map.mp member
      exact ⟨calls, same⟩
  have shown : Quantity.Shown 3 (.bucket 1) := fun _ => by decide
  exact (report_accounts_for_requests listsClasses_threeFigures "run" 1 flushed
    (List.reverse_perm _) shown).trans (by decide +kernel)

end Strobengine.Distributed.Master
