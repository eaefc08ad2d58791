import Strobengine.Distributed.Proto
import Strobengine.Rust.Map
import Strobengine.Rust.Number
import Mathlib.Algebra.Order.Ring.Rat
import Mathlib.Algebra.BigOperators.Group.List.Basic

/-!
# The telemetry pipeline of the master

The ordered map of epochs is a hash map that is sorted when it is read.
-/

namespace Strobengine.Distributed.Master

open Rust
open Counter (value)

def epochMs : Int := 1000

def bucketBoundsMs : List Float64 :=
  [.finite 0, .finite 1, .finite 5, .finite 10, .finite 25, .finite 50, .finite 100,
    .finite 250, .finite 500, .finite 1000, .infinity]

structure GlobalLatency (Count : Type) where
  p50Ms : Float64
  p90Ms : Float64
  p95Ms : Float64
  p99Ms : Float64
  minMs : ℚ
  maxMs : ℚ
  sampleCount : Count
  bucketCounts : List Count
  deriving DecidableEq, Repr

structure ErrorClassCount (Count : Type) where
  errorClass : String
  count : Count
  deriving DecidableEq, Repr

structure TimelinePoint where
  elapsedSecs : ℚ
  epochMs : Int
  rps : ℚ
  errorRatePercent : ℚ
  p50Ms : Float64
  p95Ms : Float64
  p99Ms : Float64
  deriving DecidableEq, Repr

structure WorkerShare (Count : Type) where
  workerId : String
  totalRequests : Count
  successCount : Count
  failureCount : Count
  errorRatePercent : ℚ
  rps : ℚ
  sharePercent : ℚ
  p95Ms : Float64
  deriving DecidableEq, Repr

structure GlobalReport (Count : Type) where
  testRunId : String
  workers : List String
  workerCount : Nat
  batches : Nat
  totalRequests : Count
  successCount : Count
  failureCount : Count
  errorRatePercent : ℚ
  bytesReceived : Count
  rps : ℚ
  durationSecs : ℚ
  latency : GlobalLatency Count
  errorBreakdown : List (ErrorClassCount Count)
  timeline : List TimelinePoint
  workerShares : List (WorkerShare Count)
  deriving DecidableEq, Repr

structure LiveSnapshot (Count : Type) where
  runId : String
  epochMs : Int
  elapsedSecs : ℚ
  windowSecs : ℚ
  rps : ℚ
  errorRatePercent : ℚ
  p50Ms : Float64
  p90Ms : Float64
  p95Ms : Float64
  p99Ms : Float64
  totalRequests : Count
  activeWorkers : Nat
  deriving DecidableEq, Repr

/-- Mutable metric accumulator; shared by epochs, per-worker tallies, sliding windows
and the cumulative total. -/
structure Metrics (Count : Type) where
  total : Count
  success : Count
  failure : Count
  bytes : Count
  buckets : List Count
  sampleCount : Count
  minMs : Option ℚ
  maxMs : Option ℚ
  errors : HashMap Int Count

section Percentile

variable {Count : Type} [Counter Count]

def interpolate (lo hi fallbackMax : Float64) (within : ℚ) : Float64 :=
  let clamped := max 0 (min within 1)
  match lo, hi, fallbackMax with
  | .finite low, .finite high, _ => .finite (low + (high - low) * clamped)
  | .finite low, _, .finite fallback => .finite (low + (max fallback low - low) * clamped)
  | .finite _, _, _ => if clamped = 0 then .nan else .infinity
  | _, _, _ => .nan

def percentileFrom (target : ℚ) (fallbackMax : Float64) : List Count → Nat → Count → Float64
  | [], _, _ => fallbackMax
  | count :: rest, index, cumulative =>
    if value count = 0 then
      percentileFrom target fallbackMax rest (index + 1) cumulative
    else if target ≤ (value cumulative : ℚ) + value count then
      interpolate ((bucketBoundsMs[index]?).getD (.finite 0))
        ((bucketBoundsMs[index + 1]?).getD fallbackMax) fallbackMax
        ((target - value cumulative) / value count)
    else
      percentileFrom target fallbackMax rest (index + 1) (cumulative + count)

def approxPercentile (buckets : List Count) (percentile : ℚ) (fallbackMax : Float64) : Float64 :=
  let total := value buckets.sum
  if total = 0 then
    .finite 0
  else
    percentileFrom (percentile * total) fallbackMax buckets 0 0

end Percentile

namespace Metrics

variable {Count : Type} [Counter Count]

def new (bucketCount : Nat) : Metrics Count :=
  { total := 0
    success := 0
    failure := 0
    bytes := 0
    buckets := List.replicate bucketCount 0
    sampleCount := 0
    minMs := none
    maxMs := none
    errors := ∅ }

def addBuckets (buckets counts : List Count) : List Count :=
  buckets.zipIdx.map (fun entry => entry.1 + (counts[entry.2]?).getD 0)

def extremum (choose : ℚ → ℚ → ℚ) (current : Option ℚ) (value : ℚ) : Option ℚ :=
  some (match current with
    | none => value
    | some extreme => choose extreme value)

def mergeBatch (metrics : Metrics Count) (batch : Proto.MetricBatch Count) : Metrics Count :=
  let counted : Metrics Count :=
    { metrics with
      total := metrics.total + batch.totalRequests
      success := metrics.success + batch.successCount
      failure := metrics.failure + batch.failureCount
      bytes := metrics.bytes + batch.bytesReceived
      errors :=
        batch.errors.foldl
          (fun errors error =>
            errors.entryOr error.errorClass 0 (fun count => count + error.count))
          metrics.errors }
  match batch.latency with
  | none => counted
  | some latency =>
    { counted with
      buckets := addBuckets metrics.buckets latency.bucketCounts
      sampleCount := metrics.sampleCount + latency.sampleCount
      minMs := extremum min metrics.minMs latency.minMs
      maxMs := extremum max metrics.maxMs latency.maxMs }

section MergeBatch

variable (metrics : Metrics Count) (batch : Proto.MetricBatch Count)

@[simp]
theorem mergeBatch_total :
    (metrics.mergeBatch batch).total = metrics.total + batch.totalRequests := by
  cases latency : batch.latency <;> simp only [mergeBatch, latency]

@[simp]
theorem mergeBatch_success :
    (metrics.mergeBatch batch).success = metrics.success + batch.successCount := by
  cases latency : batch.latency <;> simp only [mergeBatch, latency]

@[simp]
theorem mergeBatch_failure :
    (metrics.mergeBatch batch).failure = metrics.failure + batch.failureCount := by
  cases latency : batch.latency <;> simp only [mergeBatch, latency]

@[simp]
theorem mergeBatch_bytes :
    (metrics.mergeBatch batch).bytes = metrics.bytes + batch.bytesReceived := by
  cases latency : batch.latency <;> simp only [mergeBatch, latency]

end MergeBatch

def merge (metrics other : Metrics Count) : Metrics Count :=
  { total := metrics.total + other.total
    success := metrics.success + other.success
    failure := metrics.failure + other.failure
    bytes := metrics.bytes + other.bytes
    buckets := addBuckets metrics.buckets other.buckets
    sampleCount := metrics.sampleCount + other.sampleCount
    minMs := other.minMs.elim metrics.minMs (extremum min metrics.minMs)
    maxMs := other.maxMs.elim metrics.maxMs (extremum max metrics.maxMs)
    errors :=
      other.errors.toPairs.foldl
        (fun errors entry => errors.entryOr entry.1 0 (fun count => count + entry.2))
        metrics.errors }

def errorRatePercent (metrics : Metrics Count) : ℚ :=
  if 0 < value metrics.total then
    (value metrics.failure : ℚ) / value metrics.total * 100
  else
    0

def latency (metrics : Metrics Count) : GlobalLatency Count :=
  let fallbackMax := metrics.maxMs.elim .infinity .finite
  { p50Ms := approxPercentile metrics.buckets (50 / 100) fallbackMax
    p90Ms := approxPercentile metrics.buckets (90 / 100) fallbackMax
    p95Ms := approxPercentile metrics.buckets (95 / 100) fallbackMax
    p99Ms := approxPercentile metrics.buckets (99 / 100) fallbackMax
    minMs := metrics.minMs.getD 0
    maxMs := metrics.maxMs.getD 0
    sampleCount := metrics.sampleCount
    bucketCounts := metrics.buckets }

end Metrics

def epochOf (unixMs : Int) : Int :=
  unixMs - unixMs.emod epochMs

structure TelemetryPipeline (Count : Type) where
  runId : String
  bucketCount : Nat
  windowEpochs : Int
  epochs : HashMap Int (Metrics Count)
  workers : HashMap String (Metrics Count)
  startedAtMs : Option Int
  lastPublishedEpoch : Option Int
  cumulative : Metrics Count
  batches : Nat

namespace TelemetryPipeline

variable {Count : Type} [Counter Count]

def new (runId : String) (bucketCount : Nat) (windowEpochs : Int) : TelemetryPipeline Count :=
  { runId
    bucketCount := max bucketCount 1
    windowEpochs := max windowEpochs 1
    epochs := ∅
    workers := ∅
    startedAtMs := none
    lastPublishedEpoch := none
    cumulative := .new (max bucketCount 1)
    batches := 0 }

def sortedEpochs (pipeline : TelemetryPipeline Count) : List (Int × Metrics Count) :=
  pipeline.epochs.toPairs.insertionSort (fun first second => first.1 ≤ second.1)

def windowMetrics (pipeline : TelemetryPipeline Count) (epoch : Int) : Metrics Count :=
  let start := epoch - (pipeline.windowEpochs - 1) * epochMs
  (pipeline.sortedEpochs.filter (fun entry => start ≤ entry.1 ∧ entry.1 ≤ epoch)).foldl
    (fun window entry => window.merge entry.2) (.new pipeline.bucketCount)

def elapsedSecs (pipeline : TelemetryPipeline Count) (epoch : Int) : ℚ :=
  match pipeline.startedAtMs with
  | some start => if start ≤ epoch then ((epoch - start : Int) : ℚ) / 1000 else 0
  | none => 0

def snapshot (pipeline : TelemetryPipeline Count) (epoch : Int) : LiveSnapshot Count :=
  let window := pipeline.windowMetrics epoch
  let windowSecs := (pipeline.windowEpochs : ℚ) * ((epochMs : ℚ) / 1000)
  let latency := window.latency
  { runId := pipeline.runId
    epochMs := epoch
    elapsedSecs := pipeline.elapsedSecs epoch
    windowSecs
    rps := if 0 < windowSecs then (value window.total : ℚ) / windowSecs else 0
    errorRatePercent := window.errorRatePercent
    p50Ms := latency.p50Ms
    p90Ms := latency.p90Ms
    p95Ms := latency.p95Ms
    p99Ms := latency.p99Ms
    totalRequests := pipeline.cumulative.total
    activeWorkers := pipeline.workers.keys.length }

/-- Ingest one telemetry window; a snapshot is published when the epoch differs from the
last published one. -/
def ingest (pipeline : TelemetryPipeline Count) (batch : Proto.MetricBatch Count) :
    TelemetryPipeline Count × Option (LiveSnapshot Count) :=
  let epoch := epochOf batch.windowStartUnixMs
  let merged : TelemetryPipeline Count :=
    { pipeline with
      startedAtMs := some (pipeline.startedAtMs.getD epoch)
      epochs :=
        pipeline.epochs.entryOr epoch (.new pipeline.bucketCount)
          (fun metrics => metrics.mergeBatch batch)
      workers :=
        if batch.workerId = "" then
          pipeline.workers
        else
          pipeline.workers.entryOr batch.workerId (.new pipeline.bucketCount)
            (fun metrics => metrics.mergeBatch batch)
      cumulative := pipeline.cumulative.mergeBatch batch
      batches := pipeline.batches + 1 }
  if pipeline.lastPublishedEpoch = some epoch then
    (merged, none)
  else
    ({ merged with lastPublishedEpoch := some epoch },
      some ({ merged with lastPublishedEpoch := some epoch }.snapshot epoch))

section Ingest

variable (pipeline : TelemetryPipeline Count) (batch : Proto.MetricBatch Count)

theorem ingest_fst :
    (pipeline.ingest batch).1 = { pipeline with
        startedAtMs :=
          some (pipeline.startedAtMs.getD (epochOf batch.windowStartUnixMs))
        epochs :=
          pipeline.epochs.entryOr (epochOf batch.windowStartUnixMs)
            (.new pipeline.bucketCount) (fun metrics => metrics.mergeBatch batch)
        workers :=
          if batch.workerId = "" then
            pipeline.workers
          else
            pipeline.workers.entryOr batch.workerId (.new pipeline.bucketCount)
              (fun metrics => metrics.mergeBatch batch)
        cumulative := pipeline.cumulative.mergeBatch batch
        batches := pipeline.batches + 1
        lastPublishedEpoch := some (epochOf batch.windowStartUnixMs) } := by
  by_cases published : pipeline.lastPublishedEpoch = some (epochOf batch.windowStartUnixMs)
  · simp only [ingest, published, if_true]
  · simp only [ingest, published, if_false]

@[simp]
theorem ingest_runId : (pipeline.ingest batch).1.runId = pipeline.runId := by
  rw [ingest_fst]

@[simp]
theorem ingest_bucketCount : (pipeline.ingest batch).1.bucketCount = pipeline.bucketCount := by
  rw [ingest_fst]

@[simp]
theorem ingest_batches : (pipeline.ingest batch).1.batches = pipeline.batches + 1 := by
  rw [ingest_fst]

@[simp]
theorem ingest_cumulative :
    (pipeline.ingest batch).1.cumulative = pipeline.cumulative.mergeBatch batch := by
  rw [ingest_fst]

end Ingest

def timeline (pipeline : TelemetryPipeline Count) : List TimelinePoint :=
  pipeline.sortedEpochs.map (fun entry =>
    let epochSecs : ℚ := (epochMs : ℚ) / 1000
    let latency := entry.2.latency
    { elapsedSecs := pipeline.elapsedSecs entry.1
      epochMs := entry.1
      rps :=
        if 0 < epochSecs then (value entry.2.total : ℚ) / epochSecs else 0
      errorRatePercent := entry.2.errorRatePercent
      p50Ms := latency.p50Ms
      p95Ms := latency.p95Ms
      p99Ms := latency.p99Ms })

def ranks (first second : Nat × String) : Prop :=
  second.1 < first.1 ∨ (first.1 = second.1 ∧ first.2 ≤ second.2)

instance : DecidableRel ranks := by
  intro first second
  unfold ranks
  infer_instance

def workerShares (pipeline : TelemetryPipeline Count) (durationSecs : ℚ) :
    List (WorkerShare Count) :=
  let totalAll := value pipeline.cumulative.total
  let shares : List (WorkerShare Count) :=
    pipeline.workers.toPairs.map (fun entry =>
      { workerId := entry.1
        totalRequests := entry.2.total
        successCount := entry.2.success
        failureCount := entry.2.failure
        errorRatePercent := entry.2.errorRatePercent
        rps := if 0 < durationSecs then (value entry.2.total : ℚ) / durationSecs else 0
        sharePercent := if 0 < totalAll then (value entry.2.total : ℚ) / totalAll * 100 else 0
        p95Ms := entry.2.latency.p95Ms })
  shares.insertionSort (fun first second =>
    ranks (value first.totalRequests, first.workerId) (value second.totalRequests, second.workerId))

def errorClassName (errorClass : Int) : String :=
  match Proto.ErrorClass.ofWire? errorClass with
  | some known => known.debugName
  | none => "UNKNOWN(" ++ toString errorClass ++ ")"

def errorBreakdown (pipeline : TelemetryPipeline Count) : List (ErrorClassCount Count) :=
  let counts : List (ErrorClassCount Count) :=
    pipeline.cumulative.errors.toPairs.map (fun entry =>
      { errorClass := errorClassName entry.1, count := entry.2 })
  counts.insertionSort (fun first second =>
    ranks (value first.count, first.errorClass) (value second.count, second.errorClass))

/-- The observed span, from the first ingested epoch to the end of the last one. -/
def durationSecs (pipeline : TelemetryPipeline Count) : ℚ :=
  match pipeline.startedAtMs, pipeline.sortedEpochs.getLast? with
  | some start, some (last, _) =>
    if start ≤ last then ((last - start + epochMs : Int) : ℚ) / 1000 else 0
  | _, _ => 0

def finalize (pipeline : TelemetryPipeline Count) : GlobalReport Count :=
  let durationSecs := pipeline.durationSecs
  let workers := pipeline.workers.keys.insertionSort (fun first second => first ≤ second)
  { testRunId := pipeline.runId
    workers
    workerCount := workers.length
    batches := pipeline.batches
    totalRequests := pipeline.cumulative.total
    successCount := pipeline.cumulative.success
    failureCount := pipeline.cumulative.failure
    errorRatePercent := pipeline.cumulative.errorRatePercent
    bytesReceived := pipeline.cumulative.bytes
    rps :=
      if 0 < durationSecs then
        (value pipeline.cumulative.total : ℚ) / durationSecs
      else
        0
    durationSecs
    latency := pipeline.cumulative.latency
    errorBreakdown := pipeline.errorBreakdown
    timeline := pipeline.timeline
    workerShares := pipeline.workerShares durationSecs }

end TelemetryPipeline

end Strobengine.Distributed.Master
