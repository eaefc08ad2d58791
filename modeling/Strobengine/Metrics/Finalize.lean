import Strobengine.Foundations.Folding
import Strobengine.Metrics.Accumulators

/-!
# Finalizing the metrics of a run

Each metric is recorded in the common fields, in the timeline and in the accumulator of its
protocol. The timeline reads its clock, in nanoseconds, up to four times in a round; the readings of
a round are a function of the place in the code, in the order of these places.
-/

namespace Strobengine.Metrics

open Foundations

structure TimelineSample where
  elapsedSec : ℚ
  rps : ℚ
  errorRate : ℚ
  p50Us : ℚ
  p95Us : ℚ
  p99Us : ℚ
  deriving DecidableEq, Repr

structure Timeline where
  intervalMs : Nat
  samples : List TimelineSample
  deriving DecidableEq, Repr

def makeTimelineSample
    (hdr : HdrStatistics) (elapsedSec : ℚ) (requests errors : Nat) (intervalSecs : ℚ)
    (histogram : Histogram) : TimelineSample :=
  { elapsedSec
    rps := if 0 < intervalSecs then requests / intervalSecs else 0
    errorRate := if 0 < requests then (errors : ℚ) / requests * 100 else 0
    p50Us := hdr.valueAtQuantile histogram (50 / 100)
    p95Us := hdr.valueAtQuantile histogram (95 / 100)
    p99Us := hdr.valueAtQuantile histogram (99 / 100) }

structure TimelineAccumulator where
  enabled : Bool
  intervalMs : Nat
  sampleIntervalNs : Nat
  runStart : Nat
  lastSampleAt : Nat
  samples : List TimelineSample
  histogram : Histogram
  requests : Nat
  errors : Nat

namespace TimelineAccumulator

def secondsSince (earlier now : Nat) : ℚ :=
  ((now - earlier : Nat) : ℚ) / 1000000000

def new (timelineIntervalMs : Nat) (now : Nat → Nat) : TimelineAccumulator :=
  { enabled := 0 < timelineIntervalMs
    intervalMs := timelineIntervalMs
    sampleIntervalNs := max timelineIntervalMs 1 * 1000000
    runStart := now 0
    lastSampleAt := now 1
    samples := []
    histogram := []
    requests := 0
    errors := 0 }

def recordLatency (timeline : TimelineAccumulator) (latencyUs : Nat) (isError : Bool) :
    TimelineAccumulator :=
  if timeline.enabled then
    { timeline with
      histogram := record timeline.histogram latencyUs
      requests := timeline.requests + 1
      errors := if isError then timeline.errors + 1 else timeline.errors }
  else
    timeline

def maybeEmit (hdr : HdrStatistics) (timeline : TimelineAccumulator) (now : Nat → Nat) :
    TimelineAccumulator :=
  if !timeline.enabled || now 0 - timeline.lastSampleAt < timeline.sampleIntervalNs then
    timeline
  else
    { timeline with
      samples :=
        if 0 < timeline.requests then
          timeline.samples ++
            [makeTimelineSample hdr (secondsSince timeline.runStart (now 1)) timeline.requests
              timeline.errors (secondsSince timeline.lastSampleAt (now 2)) timeline.histogram]
        else
          timeline.samples
      histogram := []
      requests := 0
      errors := 0
      lastSampleAt := now 3 }

def finish (hdr : HdrStatistics) (timeline : TimelineAccumulator) (now : Nat → Nat) :
    Option Timeline :=
  let samples :=
    if timeline.enabled && 0 < timeline.requests then
      timeline.samples ++
        [makeTimelineSample hdr (secondsSince timeline.runStart (now 0)) timeline.requests
          timeline.errors (max (secondsSince timeline.lastSampleAt (now 1)) (1 / 1000000000))
          timeline.histogram]
    else
      timeline.samples
  if timeline.enabled && !samples.isEmpty then
    some { intervalMs := timeline.intervalMs, samples }
  else
    none

end TimelineAccumulator

/-! ## The receive loop -/

/-- The aggregated values with the sections that are filled in at the end. -/
structure FinalizedMetrics extends AggregatedMetrics where
  quicMetrics : Option QuicMetrics
  sseMetrics : Option SseMetrics
  wsMetrics : Option WebsocketMetrics
  grpcMetrics : Option GrpcMetrics
  http3Metrics : Option Http3Metrics
  graphqlMetrics : Option GraphqlMetrics
  graphqlWsMetrics : Option GraphqlWsMetrics
  soapMetrics : Option SoapMetrics
  stompMetrics : Option StompMetrics
  dbMetrics : Option DatabaseMetrics
  timeline : Option Timeline

structure Round where
  metric : RequestMetric
  now : Nat → Nat

structure Aggregation where
  metrics : AggregatedMetrics
  protocols : ProtocolAccumulators
  timeline : TimelineAccumulator

namespace Aggregation

def new (timelineIntervalMs : Nat) (now : Nat → Nat) : Aggregation :=
  { metrics := {}
    protocols := {}
    timeline := TimelineAccumulator.new timelineIntervalMs now }

def receive (hdr : HdrStatistics) (aggregation : Aggregation) (round : Round) : Aggregation :=
  { metrics := aggregation.metrics.receive round.metric
    protocols := aggregation.protocols.record round.metric.protocol
    timeline :=
      (aggregation.timeline.recordLatency (min round.metric.latencyMicros u64Max)
        round.metric.isError).maybeEmit hdr round.now }

def finish (hdr : HdrStatistics) (aggregation : Aggregation) (now : Nat → Nat) :
    FinalizedMetrics :=
  { aggregation.metrics with
    quicMetrics := aggregation.protocols.quic.finish
    sseMetrics := aggregation.protocols.sse.finish
    wsMetrics := aggregation.protocols.ws.finish
    grpcMetrics := aggregation.protocols.grpc.finish
    http3Metrics := aggregation.protocols.http3.finish
    graphqlMetrics := aggregation.protocols.graphql.finish
    graphqlWsMetrics := aggregation.protocols.graphqlWs.finish hdr
    soapMetrics := aggregation.protocols.soap.finish
    stompMetrics := aggregation.protocols.stomp.finish hdr
    dbMetrics := aggregation.protocols.db.finish hdr
    timeline := aggregation.timeline.finish hdr now }

end Aggregation

def finalizeMetrics (hdr : HdrStatistics) (timelineIntervalMs : Nat) (started : Nat → Nat)
    (rounds : List Round) (ended : Nat → Nat) : FinalizedMetrics :=
  (rounds.foldl (Aggregation.receive hdr)
    (Aggregation.new timelineIntervalMs started)).finish hdr ended

namespace ProtocolSample

def quic? : ProtocolSample → Option QuicSample
  | .http3 _ sample => sample
  | _ => none

def http3? : ProtocolSample → Option Http3Sample
  | .http3 sample _ => sample
  | _ => none

def sse? : ProtocolSample → Option SseSample
  | .sse sample => some sample
  | _ => none

def graphql? : ProtocolSample → Option GraphqlSample
  | .graphql sample => some sample
  | _ => none

def graphqlWs? : ProtocolSample → Option GraphqlWsSample
  | .graphqlWs sample => some sample
  | _ => none

def soap? : ProtocolSample → Option SoapSample
  | .soap sample => some sample
  | _ => none

def stomp? : ProtocolSample → Option StompSample
  | .stomp sample => some sample
  | _ => none

def db? : ProtocolSample → Option DbSample
  | .db sample => some sample
  | _ => none

def ws? : ProtocolSample → Option WsSample
  | .ws sample => some sample
  | _ => none

def grpc? : ProtocolSample → Option GrpcSample
  | .grpc sample => some sample
  | _ => none

end ProtocolSample

def samples {Sample : Type} (pick : ProtocolSample → Option Sample)
    (received : List RequestMetric) : List Sample :=
  received.filterMap (fun metric => metric.protocol.bind pick)

theorem ProtocolAccumulators.record_eq
    (accumulators : ProtocolAccumulators) (protocol : Option ProtocolSample) :
    accumulators.record protocol =
      { quic :=
          (protocol.bind ProtocolSample.quic?).elim accumulators.quic
            accumulators.quic.record
        sse :=
          (protocol.bind ProtocolSample.sse?).elim accumulators.sse
            accumulators.sse.record
        graphql :=
          (protocol.bind ProtocolSample.graphql?).elim accumulators.graphql
            accumulators.graphql.record
        graphqlWs :=
          (protocol.bind ProtocolSample.graphqlWs?).elim accumulators.graphqlWs
            accumulators.graphqlWs.record
        soap :=
          (protocol.bind ProtocolSample.soap?).elim accumulators.soap
            accumulators.soap.record
        stomp :=
          (protocol.bind ProtocolSample.stomp?).elim accumulators.stomp
            accumulators.stomp.record
        db :=
          (protocol.bind ProtocolSample.db?).elim accumulators.db
            accumulators.db.record
        ws :=
          (protocol.bind ProtocolSample.ws?).elim accumulators.ws
            accumulators.ws.record
        grpc :=
          (protocol.bind ProtocolSample.grpc?).elim accumulators.grpc
            accumulators.grpc.record
        http3 :=
          (protocol.bind ProtocolSample.http3?).elim accumulators.http3
            accumulators.http3.record } := by
  cases protocol with
  | none => rfl
  | some sample =>
    cases sample with
    | http3 http3 quic =>
      cases http3 with
      | none | some => cases quic <;> rfl
    | _ => rfl

theorem metrics_foldl_receive
    (hdr : HdrStatistics) (rounds : List Round) (aggregation : Aggregation) :
    (rounds.foldl (Aggregation.receive hdr) aggregation).metrics =
      (rounds.map Round.metric).foldl AggregatedMetrics.receive aggregation.metrics := by
  induction rounds generalizing aggregation with
  | nil => rfl
  | cons round rest ih => exact ih (aggregation.receive hdr round)

theorem accumulator_foldl_receive
    {Sample Accumulator : Type} {part : ProtocolAccumulators → Accumulator}
    {pick : ProtocolSample → Option Sample} {record : Accumulator → Sample → Accumulator}
    (recorded :
      ∀ accumulators protocol,
        part (ProtocolAccumulators.record accumulators protocol) =
          (protocol.bind pick).elim (part accumulators) (record (part accumulators)))
    (hdr : HdrStatistics) (rounds : List Round) (aggregation : Aggregation) :
    part (rounds.foldl (Aggregation.receive hdr) aggregation).protocols =
      (samples pick (rounds.map Round.metric)).foldl record (part aggregation.protocols) := by
  have folded :=
    @foldl_part _ _ _ _ (Aggregation.receive hdr)
      (fun aggregation => part aggregation.protocols)
      (fun round => round.metric.protocol.bind pick) record
      (fun aggregation round => recorded aggregation.protocols round.metric.protocol)
      rounds aggregation
  rw [folded, samples, List.filterMap_map]
  rfl

end Strobengine.Metrics
