import Strobengine.Metrics.Aggregate

/-!
# The summary of a local run and the totals of its report

`calculate_summary`, and what `ReportArtifact::from_summary_and_config` derives from it.
Floating-point values are exact rationals.
-/

namespace Strobengine.Metrics

open Rust

structure SummaryInput where
  url : String
  totalRequests : Nat
  totalErrors : Nat
  durationSecs : ℚ
  workers : Nat
  aggregated : AggregatedMetrics

structure TestSummary where
  url : String
  totalRequests : Nat
  totalErrors : Nat
  averageLatencyMs : ℚ
  p50LatencyMs : ℚ
  p90LatencyMs : ℚ
  p95LatencyMs : ℚ
  p99LatencyMs : ℚ
  p9999LatencyMs : ℚ
  minLatencyMs : ℚ
  maxLatencyMs : ℚ
  stdDevLatencyMs : ℚ
  totalBytesReceived : Nat
  durationSecs : ℚ
  workers : Nat
  statusCodes : HashMap Nat Nat
  avgE2eLatencyUs : ℚ
  avgConnectionLatencyUs : ℚ
  chaosInjectedTotal : Nat
  chaosFaultsByType : HashMap String Nat
  connectionReuseRatio : ℚ
  avgDnsResolutionMs : ℚ
  deriving DecidableEq

def meanOrZero (hdr : HdrStatistics) (histogram : Histogram) : ℚ :=
  if histogram.isEmpty then 0 else hdr.mean histogram

def latencyMs (histogram : Histogram) (statistic : Histogram → ℚ) : ℚ :=
  if histogram.isEmpty then 0 else statistic histogram / microsPerMilli

def calculateSummary (hdr : HdrStatistics) (input : SummaryInput) : TestSummary :=
  let aggregated := input.aggregated
  let latencies := aggregated.latencyHistogram
  let quantileMs (quantile : ℚ) : ℚ :=
    latencyMs latencies (fun histogram => (hdr.valueAtQuantile histogram quantile : ℚ))
  let totalConnections :=
    aggregated.totalSocketsCreated + aggregated.totalConnectionsReused
  { url := input.url
    totalRequests := input.totalRequests
    totalErrors := input.totalErrors
    averageLatencyMs := latencyMs latencies hdr.mean
    p50LatencyMs := quantileMs (50 / 100)
    p90LatencyMs := quantileMs (90 / 100)
    p95LatencyMs := quantileMs (95 / 100)
    p99LatencyMs := quantileMs (99 / 100)
    p9999LatencyMs := quantileMs (9999 / 10000)
    minLatencyMs := latencyMs latencies (fun histogram => (hdr.minimum histogram : ℚ))
    maxLatencyMs := latencyMs latencies (fun histogram => (hdr.maximum histogram : ℚ))
    stdDevLatencyMs := latencyMs latencies hdr.stdev
    totalBytesReceived := aggregated.totalBytes
    durationSecs := input.durationSecs
    workers := input.workers
    statusCodes := aggregated.statusCodes
    avgE2eLatencyUs := meanOrZero hdr aggregated.e2eLatencyHistogram
    avgConnectionLatencyUs := meanOrZero hdr aggregated.connectionLatencyHistogram
    chaosInjectedTotal := aggregated.chaosInjectedTotal
    chaosFaultsByType := aggregated.chaosFaultsByType
    connectionReuseRatio :=
      if 0 < totalConnections then
        (aggregated.totalConnectionsReused : ℚ) / totalConnections
      else
        0
    avgDnsResolutionMs :=
      if 0 < aggregated.dnsResolutionCount then
        (aggregated.dnsResolutionSumUs : ℚ) / aggregated.dnsResolutionCount / 1000
      else
        0 }

structure ReportSummary where
  totalRequests : Nat
  successfulRequests : Nat
  failedRequests : Nat
  rps : ℚ
  bytesTransferred : Nat
  deriving DecidableEq, Repr

def ReportSummary.fromSummary (summary : TestSummary) : ReportSummary :=
  { totalRequests := summary.totalRequests
    successfulRequests := summary.totalRequests - summary.totalErrors
    failedRequests := summary.totalErrors
    rps :=
      if 0 < summary.durationSecs then summary.totalRequests / summary.durationSecs else 0
    bytesTransferred := summary.totalBytesReceived }

end Strobengine.Metrics
