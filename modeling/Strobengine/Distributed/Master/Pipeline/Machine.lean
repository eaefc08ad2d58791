import Strobengine.Distributed.Master.Deadline
import Strobengine.Distributed.Master.Pipeline.Window
import Strobengine.Rust.Machine

/-!
# Machine arithmetic in the pipeline

The same functions as in the exact model, with every 64-bit sum, difference and product
stored in a machine integer and with the range of the sliding window checked as
`BTreeMap::range` does.
-/

namespace Strobengine.Distributed.Master

open Rust

def addCountsIn (build : Build) (errors : HashMap Int Nat) (entries : List (Int × Nat)) :
    Except Panic (HashMap Int Nat) :=
  entries.foldlM
    (fun errors entry => do
      let count ← build.uint64 ((errors.lookup entry.1).getD 0 + entry.2)
      return errors.insert entry.1 count)
    errors

def addBucketsIn (build : Build) (buckets counts : List Nat) : Except Panic (List Nat) :=
  buckets.zipIdx.mapM (fun entry => build.uint64 (entry.1 + (counts[entry.2]?).getD 0))

def sumIn (build : Build) (buckets : List Nat) : Except Panic Nat :=
  buckets.foldlM (fun total count => build.uint64 (total + count)) 0

def percentileFromIn (build : Build) (target : ℚ) (fallbackMax : Float64) :
    List Nat → Nat → Nat → Except Panic Float64
  | [], _, _ => .ok fallbackMax
  | count :: rest, index, cumulative =>
    if count = 0 then
      percentileFromIn build target fallbackMax rest (index + 1) cumulative
    else if target ≤ (cumulative : ℚ) + count then
      .ok
        (interpolate ((bucketBoundsMs[index]?).getD (.finite 0))
          ((bucketBoundsMs[index + 1]?).getD fallbackMax) fallbackMax
          ((target - cumulative) / count))
    else do
      let cumulative ← build.uint64 (cumulative + count)
      percentileFromIn build target fallbackMax rest (index + 1) cumulative

def approxPercentileIn
    (build : Build) (buckets : List Nat) (percentile : ℚ) (fallbackMax : Float64) :
    Except Panic Float64 := do
  let total ← sumIn build buckets
  if total = 0 then
    return .finite 0
  else
    percentileFromIn build (percentile * total) fallbackMax buckets 0 0

namespace Metrics

def mergeBatchIn (build : Build) (metrics : Metrics Nat) (batch : Proto.MetricBatch Nat) :
    Except Panic (Metrics Nat) := do
  let total ← build.uint64 (metrics.total + batch.totalRequests)
  let success ← build.uint64 (metrics.success + batch.successCount)
  let failure ← build.uint64 (metrics.failure + batch.failureCount)
  let bytes ← build.uint64 (metrics.bytes + batch.bytesReceived)
  let measured ←
    match batch.latency with
    | none => pure metrics
    | some latency => do
        let buckets ← addBucketsIn build metrics.buckets latency.bucketCounts
        let sampleCount ← build.uint64 (metrics.sampleCount + latency.sampleCount)
        pure
          { metrics with
            buckets
            sampleCount
            minMs := extremum min metrics.minMs latency.minMs
            maxMs := extremum max metrics.maxMs latency.maxMs }
  let errors ←
    addCountsIn build metrics.errors
      (batch.errors.map (fun error => (error.errorClass, error.count)))
  pure
    { measured with
      total
      success
      failure
      bytes
      errors }

def mergeIn (build : Build) (metrics other : Metrics Nat) : Except Panic (Metrics Nat) := do
  let total ← build.uint64 (metrics.total + other.total)
  let success ← build.uint64 (metrics.success + other.success)
  let failure ← build.uint64 (metrics.failure + other.failure)
  let bytes ← build.uint64 (metrics.bytes + other.bytes)
  let buckets ← addBucketsIn build metrics.buckets other.buckets
  let sampleCount ← build.uint64 (metrics.sampleCount + other.sampleCount)
  let errors ← addCountsIn build metrics.errors other.errors.toPairs
  pure
    { total
      success
      failure
      bytes
      buckets
      sampleCount
      minMs := other.minMs.elim metrics.minMs (extremum min metrics.minMs)
      maxMs := other.maxMs.elim metrics.maxMs (extremum max metrics.maxMs)
      errors }

def latencyIn (build : Build) (metrics : Metrics Nat) : Except Panic (GlobalLatency Nat) := do
  let fallbackMax := metrics.maxMs.elim .infinity .finite
  let p50Ms ← approxPercentileIn build metrics.buckets (50 / 100) fallbackMax
  let p90Ms ← approxPercentileIn build metrics.buckets (90 / 100) fallbackMax
  let p95Ms ← approxPercentileIn build metrics.buckets (95 / 100) fallbackMax
  let p99Ms ← approxPercentileIn build metrics.buckets (99 / 100) fallbackMax
  pure
    { p50Ms
      p90Ms
      p95Ms
      p99Ms
      minMs := metrics.minMs.getD 0
      maxMs := metrics.maxMs.getD 0
      sampleCount := metrics.sampleCount
      bucketCounts := metrics.buckets }

end Metrics

def epochOfIn (build : Build) (unixMs : Int) : Except Panic Int :=
  build.int64 (unixMs - unixMs.emod epochMs)

namespace TelemetryPipeline

def windowMetricsIn (build : Build) (pipeline : TelemetryPipeline Nat) (epoch : Int) :
    Except Panic (Metrics Nat) := do
  let length ← build.int64 (pipeline.windowEpochs - 1)
  let span ← build.int64 (length * epochMs)
  let start ← build.int64 (epoch - span)
  -- `BTreeMap::range` panics when the range starts behind its end
  if epoch < start then
    throw .invertedRange
  else
    (pipeline.sortedEpochs.filter (fun entry => start ≤ entry.1 ∧ entry.1 ≤ epoch)).foldlM
      (fun window entry => window.mergeIn build entry.2) (.new pipeline.bucketCount)

def elapsedSecsIn (build : Build) (pipeline : TelemetryPipeline Nat) (epoch : Int) :
    Except Panic ℚ :=
  match pipeline.startedAtMs with
  | some start =>
    if start ≤ epoch then do
      let elapsed ← build.int64 (epoch - start)
      return (elapsed : ℚ) / 1000
    else
      .ok 0
  | none => .ok 0

def snapshotIn (build : Build) (pipeline : TelemetryPipeline Nat) (epoch : Int) :
    Except Panic (LiveSnapshot Nat) := do
  let window ← pipeline.windowMetricsIn build epoch
  let windowSecs := (pipeline.windowEpochs : ℚ) * ((epochMs : ℚ) / 1000)
  let latency ← window.latencyIn build
  let elapsedSecs ← pipeline.elapsedSecsIn build epoch
  pure
    { runId := pipeline.runId
      epochMs := epoch
      elapsedSecs
      windowSecs
      rps := if 0 < windowSecs then (window.total : ℚ) / windowSecs else 0
      errorRatePercent := window.errorRatePercent
      p50Ms := latency.p50Ms
      p90Ms := latency.p90Ms
      p95Ms := latency.p95Ms
      p99Ms := latency.p99Ms
      totalRequests := pipeline.cumulative.total
      activeWorkers := pipeline.workers.keys.length }

def workersIn (build : Build) (pipeline : TelemetryPipeline Nat)
    (batch : Proto.MetricBatch Nat) : Except Panic (HashMap String (Metrics Nat)) :=
  if batch.workerId = "" then
    .ok pipeline.workers
  else do
    let ofWorker ←
      Metrics.mergeBatchIn build
        ((pipeline.workers.lookup batch.workerId).getD (.new pipeline.bucketCount)) batch
    return pipeline.workers.insert batch.workerId ofWorker

def mergedIn (build : Build) (pipeline : TelemetryPipeline Nat)
    (batch : Proto.MetricBatch Nat) (epoch : Int) : Except Panic (TelemetryPipeline Nat) := do
  let ofEpoch ←
    Metrics.mergeBatchIn build
      ((pipeline.epochs.lookup epoch).getD (.new pipeline.bucketCount)) batch
  let workers ← pipeline.workersIn build batch
  let cumulative ← pipeline.cumulative.mergeBatchIn build batch
  let batches ← build.uint64 (pipeline.batches + 1)
  pure
    { pipeline with
      startedAtMs := some (pipeline.startedAtMs.getD epoch)
      epochs := pipeline.epochs.insert epoch ofEpoch
      workers
      cumulative
      batches }

def ingestIn (build : Build) (pipeline : TelemetryPipeline Nat) (batch : Proto.MetricBatch Nat) :
    Except Panic (TelemetryPipeline Nat × Option (LiveSnapshot Nat)) := do
  let epoch ← epochOfIn build batch.windowStartUnixMs
  let merged ← pipeline.mergedIn build batch epoch
  if pipeline.lastPublishedEpoch = some epoch then
    return (merged, none)
  else do
    let published : TelemetryPipeline Nat := { merged with lastPublishedEpoch := some epoch }
    let snapshot ← published.snapshotIn build epoch
    return (published, some snapshot)

def timelineIn (build : Build) (pipeline : TelemetryPipeline Nat) :
    Except Panic (List TimelinePoint) :=
  pipeline.sortedEpochs.mapM (fun entry => do
    let epochSecs : ℚ := (epochMs : ℚ) / 1000
    let latency ← entry.2.latencyIn build
    let elapsedSecs ← pipeline.elapsedSecsIn build entry.1
    pure
      { elapsedSecs
        epochMs := entry.1
        rps := if 0 < epochSecs then (entry.2.total : ℚ) / epochSecs else 0
        errorRatePercent := entry.2.errorRatePercent
        p50Ms := latency.p50Ms
        p95Ms := latency.p95Ms
        p99Ms := latency.p99Ms })

def workerSharesIn (build : Build) (pipeline : TelemetryPipeline Nat) (durationSecs : ℚ) :
    Except Panic (List (WorkerShare Nat)) := do
  let totalAll := pipeline.cumulative.total
  let shares ←
    pipeline.workers.toPairs.mapM (fun entry => do
      let latency ← entry.2.latencyIn build
      pure
        ({ workerId := entry.1
           totalRequests := entry.2.total
           successCount := entry.2.success
           failureCount := entry.2.failure
           errorRatePercent := entry.2.errorRatePercent
           rps := if 0 < durationSecs then (entry.2.total : ℚ) / durationSecs else 0
           sharePercent := if 0 < totalAll then (entry.2.total : ℚ) / totalAll * 100 else 0
           p95Ms := latency.p95Ms } : WorkerShare Nat))
  return shares.insertionSort (fun first second =>
    ranks (first.totalRequests, first.workerId) (second.totalRequests, second.workerId))

def durationSecsIn (build : Build) (pipeline : TelemetryPipeline Nat) : Except Panic ℚ :=
  match pipeline.startedAtMs, pipeline.sortedEpochs.getLast? with
  | some start, some (last, _) =>
    if start ≤ last then do
      let span ← build.int64 (last - start)
      let closed ← build.int64 (span + epochMs)
      return (closed : ℚ) / 1000
    else
      .ok 0
  | _, _ => .ok 0

/-- The final report; what is not computed here involves no integer arithmetic. -/
def finalizeIn (build : Build) (pipeline : TelemetryPipeline Nat) :
    Except Panic (GlobalReport Nat) := do
  let latency ← pipeline.cumulative.latencyIn build
  let durationSecs ← pipeline.durationSecsIn build
  let timeline ← pipeline.timelineIn build
  let workerShares ← pipeline.workerSharesIn build durationSecs
  pure
    { pipeline.finalize with
      rps :=
        if 0 < durationSecs then (pipeline.cumulative.total : ℚ) / durationSecs else 0
      durationSecs
      latency
      timeline
      workerShares }

def ingestAllIn (build : Build) (pipeline : TelemetryPipeline Nat)
    (batches : List (Proto.MetricBatch Nat)) : Except Panic (TelemetryPipeline Nat) :=
  batches.foldlM
    (fun pipeline batch => do
      let ingested ← pipeline.ingestIn build batch
      return ingested.1)
    pipeline

def reportIn (build : Build) (pipeline : TelemetryPipeline Nat)
    (batches : List (Proto.MetricBatch Nat)) : Except Panic (GlobalReport Nat) := do
  let pipeline ← pipeline.ingestAllIn build batches
  pipeline.finalizeIn build

end TelemetryPipeline

def MasterConfig.windowEpochs (config : MasterConfig) : Int :=
  ((max config.windowSecs 1 : Nat) : Int).bmod (2 ^ 64)

def MasterConfig.pipeline (config : MasterConfig) (runId : String) : TelemetryPipeline Nat :=
  .new runId config.histogramBucketCount config.windowEpochs

end Strobengine.Distributed.Master
