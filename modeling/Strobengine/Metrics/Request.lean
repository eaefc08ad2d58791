import Mathlib.Data.Rat.Defs

/-!
# Per-iteration request metrics

One `RequestMetric` describes one iteration of one virtual user. The protocol
samples are kept with all their counters; floating-point fields are exact rationals.
-/

namespace Strobengine.Metrics

structure ConnectionMetrics where
  connectionLatencyUs : Option Nat := none
  timestampSentNs : Option Nat := none
  e2eLatencyUs : Option Nat := none
  dnsResolutionUs : Option Nat := none
  isSocketReused : Bool := false
  deriving DecidableEq, Repr

structure WsSample where
  pingsSent : Nat := 0
  pingsReceived : Nat := 0
  pongsSolicited : Nat := 0
  pongsUnsolicited : Nat := 0
  backpressureMaxBytes : Nat := 0
  backpressureSamplesSum : Nat := 0
  backpressureSampleCount : Nat := 0
  thresholdBreaches : Nat := 0
  deriving DecidableEq, Repr

structure GrpcSample where
  activeStreams : Nat := 0
  maxConcurrentStreams : Nat := 0
  utilization : ℚ := 0
  windowExhaustionEvents : Nat := 0
  windowStallUs : Nat := 0
  sendCapacityBytes : Nat := 0
  hasSendCapacity : Bool := false
  deriving DecidableEq, Repr

structure Http3Sample where
  cwndBytes : Nat := 0
  migrationsAttempted : Nat := 0
  migrationsSuccessful : Nat := 0
  deriving DecidableEq, Repr

structure QuicSample where
  handshakeUs : Option Nat := none
  usedZeroRtt : Bool := false
  retransmits : Option Nat := none
  deriving DecidableEq, Repr

structure SseSample where
  eventsReceived : Option Nat := none
  firstEventUs : Option Nat := none
  eventIntervalUs : Option Nat := none
  deriving DecidableEq, Repr

structure StompSample where
  messagesSent : Nat := 0
  messagesReceived : Nat := 0
  bytesSent : Nat := 0
  bytesReceived : Nat := 0
  errors : Nat := 0
  reconnects : Nat := 0
  sendLatencyUs : Option Nat := none
  receiveIntervalUs : Option Nat := none
  ttfmUs : Option Nat := none
  deriving DecidableEq, Repr

structure DbSample where
  rows : Nat := 0
  errors : Nat := 0
  acquireUs : Option Nat := none
  queryUs : Option Nat := none
  poolSize : Nat := 0
  poolIdle : Nat := 0
  deriving DecidableEq, Repr

structure GraphqlSample where
  errors : Nat := 0
  deriving DecidableEq, Repr

structure GraphqlWsSample where
  operations : Option Nat := none
  ttfmUs : Option Nat := none
  intervalUs : Option Nat := none
  errors : Option Nat := none
  deriving DecidableEq, Repr

structure SoapSample where
  faults : Nat := 0
  deriving DecidableEq, Repr

inductive ProtocolSample where
  | ws (sample : WsSample)
  | grpc (sample : GrpcSample)
  | http3 (http3 : Option Http3Sample) (quic : Option QuicSample)
  | sse (sample : SseSample)
  | stomp (sample : StompSample)
  | db (sample : DbSample)
  | graphql (sample : GraphqlSample)
  | graphqlWs (sample : GraphqlWsSample)
  | soap (sample : SoapSample)
  deriving DecidableEq, Repr

inductive ChaosFault where
  | latencySpike (durationMs : Nat)
  | corruptedPayload
  | metadataCorruption
  | connectionDrop
  deriving DecidableEq, Repr

/-- The defaults describe an error metric: status code `0` and no samples. -/
structure RequestMetric where
  latencyMicros : Nat
  statusCode : Nat := 0
  bytesReceived : Nat := 0
  isReconnect : Bool := false
  connection : ConnectionMetrics := {}
  protocol : Option ProtocolSample := none
  chaosFault : Option ChaosFault := none
  deriving DecidableEq, Repr

def RequestMetric.error (latencyMicros : Nat) (chaosFault : Option ChaosFault) : RequestMetric :=
  { latencyMicros, chaosFault }

/-- Whether the iteration counts as a failure: a transport error, an HTTP status of
at least 400, or a protocol-level error. -/
def RequestMetric.isError (metric : RequestMetric) : Bool :=
  if metric.statusCode = 0 ∨ 400 ≤ metric.statusCode then
    true
  else
    match metric.protocol with
    | some (.graphql sample) => decide (0 < sample.errors)
    | some (.graphqlWs sample) => sample.errors.any (fun count => decide (0 < count))
    | some (.soap sample) => decide (0 < sample.faults)
    | some (.stomp sample) => decide (0 < sample.errors)
    | some (.db sample) => decide (0 < sample.errors)
    | _ => false

end Strobengine.Metrics
