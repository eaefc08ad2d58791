import Strobengine.Distributed.Proto
import Strobengine.Metrics.Histogram
import Strobengine.Metrics.Request
import Mathlib.Tactic.Ring

/-!
# Windowed metric aggregation

`WindowedCollector` folds the request metrics of one run into an open window and turns each
non-empty window into a `MetricBatch`.
-/

namespace Strobengine.Distributed

open Metrics

def histogramHighestTrackable : Nat := 3600000000

def floatEpsilon : ℚ := 1 / 2 ^ 52

def classifyError (statusCode : Nat) : Proto.ErrorClass :=
  if 400 ≤ statusCode ∧ statusCode ≤ 499 then .http4xx
  else if 500 ≤ statusCode ∧ statusCode ≤ 599 then .http5xx
  else .other

def latencySummary (hdr : HdrStatistics) (histogram : Histogram) : Proto.LatencySummary Nat :=
  if histogram = [] then
    { sampleCount := 0
      bucketCounts := List.replicate histogramBucketOrder.length 0 }
  else
    let asMs := fun us : Nat => (us : ℚ) / microsPerMilli
    { p50Ms := asMs (hdr.valueAtQuantile histogram (50 / 100))
      p90Ms := asMs (hdr.valueAtQuantile histogram (90 / 100))
      p95Ms := asMs (hdr.valueAtQuantile histogram (95 / 100))
      p99Ms := asMs (hdr.valueAtQuantile histogram (99 / 100))
      minMs := asMs (hdr.minimum histogram)
      maxMs := asMs (hdr.maximum histogram)
      meanMs := hdr.mean histogram / microsPerMilli
      stdDevMs := hdr.stdev histogram / microsPerMilli
      sampleCount := histogram.length
      bucketCounts := histogramBuckets hdr histogram }

abbrev ErrorTallies := List (Int × Nat × Option String)

def bumpError (errorClass : Int) : ErrorTallies → ErrorTallies
  | [] => [(errorClass, 1, none)]
  | (tallied, count, detail) :: rest =>
    if tallied = errorClass then
      (tallied, count + 1, detail) :: rest
    else
      (tallied, count, detail) :: bumpError errorClass rest

def errorCount (errorClass : Int) (errors : ErrorTallies) : Nat :=
  ((errors.filter (fun entry => entry.1 = errorClass)).map (fun entry => entry.2.1)).sum

structure WindowedCollector where
  workerId : String
  testRunId : String
  windowMs : Nat
  windowStartMs : Int
  histogram : Histogram
  total : Nat
  success : Nat
  failure : Nat
  bytesReceived : Nat
  activeVus : Nat
  errors : ErrorTallies
  batchSeq : Nat
  deriving DecidableEq, Repr

namespace WindowedCollector

def new (workerId testRunId : String) (windowMs : Nat) (now : Int) : WindowedCollector :=
  { workerId
    testRunId
    windowMs
    windowStartMs := now
    histogram := []
    total := 0
    success := 0
    failure := 0
    bytesReceived := 0
    activeVus := 0
    errors := []
    batchSeq := 0 }

def setActiveVus (collector : WindowedCollector) (activeVus : Nat) : WindowedCollector :=
  { collector with activeVus }

def record (collector : WindowedCollector) (metric : RequestMetric) : WindowedCollector :=
  { collector with
    total := collector.total + 1
    failure := if metric.isError then collector.failure + 1 else collector.failure
    errors :=
      if metric.isError then
        bumpError (classifyError metric.statusCode).toWire collector.errors
      else
        collector.errors
    success := if metric.isError then collector.success else collector.success + 1
    histogram :=
      saturatingRecord histogramHighestTrackable collector.histogram
        (min metric.latencyMicros (2 ^ 64 - 1))
    bytesReceived := collector.bytesReceived + metric.bytesReceived }

def currentBatch (hdr : HdrStatistics) (collector : WindowedCollector) : Proto.MetricBatch Nat :=
  { workerId := collector.workerId
    testRunId := collector.testRunId
    batchId := toString collector.batchSeq
    windowStartUnixMs := collector.windowStartMs
    windowDurationMs := collector.windowMs % 2 ^ 32
    totalRequests := collector.total
    successCount := collector.success
    failureCount := collector.failure
    bytesReceived := collector.bytesReceived
    bytesSent := 0
    activeVus := collector.activeVus
    latency := some (latencySummary hdr collector.histogram)
    errors :=
      collector.errors.map (fun entry =>
        { errorClass := entry.1, count := entry.2.1, detail := entry.2.2.getD "" })
    requestsPerSecond :=
      (collector.total : ℚ) / max ((collector.windowMs : ℚ) / 1000) floatEpsilon }

def nextWindow (collector : WindowedCollector) (now : Int) : WindowedCollector :=
  { collector with
    histogram := []
    total := 0
    success := 0
    failure := 0
    bytesReceived := 0
    errors := []
    windowStartMs := now
    batchSeq := collector.batchSeq + 1 }

def takeBatch (hdr : HdrStatistics) (collector : WindowedCollector) (now : Int) :
    Option (Proto.MetricBatch Nat × WindowedCollector) :=
  if collector.total = 0 then
    none
  else
    some (collector.currentBatch hdr, collector.nextWindow now)

structure Accumulates (collector : WindowedCollector) (window : List RequestMetric) : Prop where
  total : collector.total = window.length
  success : collector.success = window.countP (fun metric => !metric.isError)
  failure : collector.failure = window.countP RequestMetric.isError
  bytesReceived : collector.bytesReceived = (window.map RequestMetric.bytesReceived).sum
  samples : collector.histogram.length = window.length
  errors :
    ∀ errorClass,
      errorCount errorClass collector.errors =
        window.countP (fun metric =>
          metric.isError &&
            decide ((classifyError metric.statusCode).toWire = errorClass))

end WindowedCollector

structure BatchCounts (batch : Proto.MetricBatch Nat) (window : List RequestMetric) : Prop where
  total : batch.totalRequests = window.length
  success : batch.successCount = window.countP (fun metric => !metric.isError)
  failure : batch.failureCount = window.countP RequestMetric.isError
  bytesReceived : batch.bytesReceived = (window.map RequestMetric.bytesReceived).sum

theorem errorCount_cons (errorClass tallied : Int) (count : Nat) (detail : Option String)
    (rest : ErrorTallies) :
    errorCount errorClass ((tallied, count, detail) :: rest) =
      (if tallied = errorClass then count else 0) + errorCount errorClass rest := by
  by_cases same : tallied = errorClass <;> simp [errorCount, same]

theorem errorCount_bumpError (bumped errorClass : Int) (errors : ErrorTallies) :
    errorCount errorClass (bumpError bumped errors) =
      errorCount errorClass errors + if bumped = errorClass then 1 else 0 := by
  induction errors with
  | nil =>
    rw [bumpError, errorCount_cons]
    simp [errorCount]
  | cons entry rest ih =>
    obtain ⟨tallied, count, detail⟩ := entry
    rw [bumpError, errorCount_cons]
    by_cases here : tallied = bumped
    · subst here
      rw [if_pos rfl, errorCount_cons]
      by_cases same : tallied = errorClass
      · rw [if_pos same, if_pos same, if_pos same]
        omega
      · rw [if_neg same, if_neg same, if_neg same]
        omega
    · rw [if_neg here, errorCount_cons, ih]
      omega

namespace WindowedCollector

theorem accumulates_new (workerId testRunId : String) (windowMs activeVus : Nat) (now : Int) :
    Accumulates ((new workerId testRunId windowMs now).setActiveVus activeVus) [] where
  total := rfl
  success := rfl
  failure := rfl
  bytesReceived := rfl
  samples := rfl
  errors := fun _ => rfl

theorem accumulates_nextWindow (collector : WindowedCollector) (now : Int) :
    Accumulates (collector.nextWindow now) [] where
  total := rfl
  success := rfl
  failure := rfl
  bytesReceived := rfl
  samples := rfl
  errors := fun _ => rfl

variable {collector : WindowedCollector} {window : List RequestMetric}

theorem Accumulates.record (accumulated : Accumulates collector window) (metric : RequestMetric) :
    Accumulates (collector.record metric) (window ++ [metric]) where
  total := by
    simp [WindowedCollector.record, accumulated.total]
  success := by
    cases failed : metric.isError <;>
      simp [WindowedCollector.record, failed, accumulated.success]
  failure := by
    cases failed : metric.isError <;>
      simp [WindowedCollector.record, failed, accumulated.failure]
  bytesReceived := by
    simp [WindowedCollector.record, accumulated.bytesReceived]
  samples := by
    simp [WindowedCollector.record, saturatingRecord, accumulated.samples]
  errors := by
    intro errorClass
    cases failed : metric.isError with
    | false => simp [WindowedCollector.record, failed, accumulated.errors]
    | true =>
      simp [WindowedCollector.record, failed, errorCount_bumpError,
        accumulated.errors, List.countP_singleton]

theorem Accumulates.currentBatch
    (accumulated : Accumulates collector window) (hdr : HdrStatistics) :
    BatchCounts (collector.currentBatch hdr) window where
  total := accumulated.total
  success := accumulated.success
  failure := accumulated.failure
  bytesReceived := accumulated.bytesReceived

theorem Accumulates.takeBatch_eq_none
    (accumulated : Accumulates collector window) {hdr : HdrStatistics} {now : Int}
    (empty : collector.takeBatch hdr now = none) :
    window = [] := by
  unfold takeBatch at empty
  split at empty
  · rename_i zero
    exact List.eq_nil_of_length_eq_zero (accumulated.total.symm.trans zero)
  · cases empty

theorem Accumulates.takeBatch_eq_some {next : WindowedCollector}
    (accumulated : Accumulates collector window)
    {hdr : HdrStatistics} {now : Int} {batch : Proto.MetricBatch Nat}
    (taken : collector.takeBatch hdr now = some (batch, next)) :
    BatchCounts batch window ∧ Accumulates next [] := by
  unfold takeBatch at taken
  split at taken
  · cases taken
  · cases taken
    exact ⟨accumulated.currentBatch hdr, accumulates_nextWindow collector now⟩

end WindowedCollector

end Strobengine.Distributed
