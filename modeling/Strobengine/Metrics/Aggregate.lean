import Strobengine.Metrics.Histogram
import Strobengine.Metrics.Request
import Strobengine.Rust.Grouping

/-!
# Aggregation of the metrics of a local run

Modelled is `record_common`, the part of `finalize_metrics` that every protocol shares; the
protocol sections and the timeline do not touch these fields. Counters are unbounded naturals.
-/

namespace Strobengine.Metrics

open Rust

def histogramHighestTrackable : Nat := 3600000000

def u64Max : Nat := 2 ^ 64 - 1

def record (histogram : Histogram) (value : Nat) : Histogram :=
  saturatingRecord histogramHighestTrackable histogram value

def ChaosFault.name : ChaosFault → String
  | .latencySpike _ => "LatencySpike"
  | .corruptedPayload => "CorruptedPayload"
  | .metadataCorruption => "MetadataCorruption"
  | .connectionDrop => "ConnectionDrop"

structure AggregatedMetrics where
  latencyHistogram : Histogram := []
  e2eLatencyHistogram : Histogram := []
  connectionLatencyHistogram : Histogram := []
  statusCodes : HashMap Nat Nat := ∅
  totalBytes : Nat := 0
  chaosInjectedTotal : Nat := 0
  chaosFaultsByType : HashMap String Nat := ∅
  totalSocketsCreated : Nat := 0
  totalConnectionsReused : Nat := 0
  dnsResolutionSumUs : Nat := 0
  dnsResolutionCount : Nat := 0

namespace AggregatedMetrics

def increment {Key : Type} [DecidableEq Key] (key : Key) (table : HashMap Key Nat) :
    HashMap Key Nat :=
  table.entryOr key 0 (fun count => count + 1)

def recordCommon (metrics : AggregatedMetrics) (metric : RequestMetric) (latencyUs : Nat) :
    AggregatedMetrics :=
  { latencyHistogram := record metrics.latencyHistogram latencyUs
    e2eLatencyHistogram :=
      match metric.connection.e2eLatencyUs with
      | some e2e => record metrics.e2eLatencyHistogram (min e2e u64Max)
      | none => metrics.e2eLatencyHistogram
    connectionLatencyHistogram :=
      match metric.connection.connectionLatencyUs with
      | some latency => record metrics.connectionLatencyHistogram (min latency u64Max)
      | none => metrics.connectionLatencyHistogram
    statusCodes := increment metric.statusCode metrics.statusCodes
    totalBytes := metrics.totalBytes + metric.bytesReceived
    chaosInjectedTotal :=
      if metric.chaosFault.isSome then metrics.chaosInjectedTotal + 1
      else metrics.chaosInjectedTotal
    chaosFaultsByType :=
      match metric.chaosFault with
      | some fault => increment fault.name metrics.chaosFaultsByType
      | none => metrics.chaosFaultsByType
    totalSocketsCreated :=
      if metric.connection.isSocketReused then metrics.totalSocketsCreated
      else metrics.totalSocketsCreated + 1
    totalConnectionsReused :=
      if metric.connection.isSocketReused then metrics.totalConnectionsReused + 1
      else metrics.totalConnectionsReused
    dnsResolutionSumUs :=
      metrics.dnsResolutionSumUs + metric.connection.dnsResolutionUs.getD 0
    dnsResolutionCount :=
      if metric.connection.dnsResolutionUs.isSome then metrics.dnsResolutionCount + 1
      else metrics.dnsResolutionCount }

/-- One round of the receive loop of `finalize_metrics`; a latency above 64 bits becomes
the largest one. -/
def receive (metrics : AggregatedMetrics) (metric : RequestMetric) : AggregatedMetrics :=
  metrics.recordCommon metric (min metric.latencyMicros u64Max)

def ofReceived (received : List RequestMetric) : AggregatedMetrics :=
  received.foldl receive {}

theorem ofReceived_concat (received : List RequestMetric) (metric : RequestMetric) :
    ofReceived (received ++ [metric]) = (ofReceived received).receive metric := by
  rw [ofReceived, List.foldl_append]
  rfl

theorem sumValues_increment {Key : Type} [DecidableEq Key] (key : Key) (table : HashMap Key Nat) :
    (increment key table).sumValues id = table.sumValues id + 1 :=
  HashMap.sumValues_entryOr id rfl rfl

theorem length_latencyHistogram_ofReceived (received : List RequestMetric) :
    (ofReceived received).latencyHistogram.length = received.length := by
  induction received using List.reverseRecOn with
  | nil => rfl
  | append_singleton earlier metric ih =>
    rw [ofReceived_concat]
    simp only [receive, recordCommon, record, saturatingRecord, List.length_append,
      List.length_singleton, ih]

theorem totalSocketsCreated_ofReceived (received : List RequestMetric) :
    (ofReceived received).totalSocketsCreated =
      received.countP (fun metric => !metric.connection.isSocketReused) := by
  induction received using List.reverseRecOn with
  | nil => rfl
  | append_singleton earlier metric ih =>
    rw [ofReceived_concat, List.countP_append, ← ih]
    cases reused : metric.connection.isSocketReused <;>
      simp [receive, recordCommon, reused]

theorem sumValues_statusCodes_ofReceived (received : List RequestMetric) :
    (ofReceived received).statusCodes.sumValues id = received.length := by
  induction received using List.reverseRecOn with
  | nil => rfl
  | append_singleton earlier metric ih =>
    rw [ofReceived_concat, List.length_append, List.length_singleton, ← ih]
    exact sumValues_increment metric.statusCode _

end AggregatedMetrics

end Strobengine.Metrics
