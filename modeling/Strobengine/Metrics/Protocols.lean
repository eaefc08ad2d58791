import Strobengine.Metrics.Histogram
import Strobengine.Metrics.Request

/-!
# Protocol sections of the aggregated metrics

The four percentile fields that the source repeats under a common name are one `Percentiles` record
here. Floating-point values are exact rationals.
-/

namespace Strobengine.Metrics

def WsSample.isSignificant (sample : WsSample) : Bool :=
  0 < sample.pingsSent || 0 < sample.pingsReceived || 0 < sample.pongsSolicited ||
    0 < sample.pongsUnsolicited || 0 < sample.backpressureMaxBytes ||
    0 < sample.backpressureSampleCount || 0 < sample.thresholdBreaches

def GrpcSample.isSignificant (sample : GrpcSample) : Bool :=
  0 < sample.activeStreams || 0 < sample.utilization ||
    0 < sample.windowExhaustionEvents || 0 < sample.windowStallUs ||
    sample.hasSendCapacity

def Http3Sample.isSignificant (sample : Http3Sample) : Bool :=
  0 < sample.cwndBytes || 0 < sample.migrationsAttempted

def StompSample.isSignificant (sample : StompSample) : Bool :=
  0 < sample.messagesSent || 0 < sample.messagesReceived || 0 < sample.bytesSent ||
    0 < sample.errors || 0 < sample.reconnects || sample.sendLatencyUs.isSome ||
    sample.receiveIntervalUs.isSome || sample.ttfmUs.isSome

def DbSample.isSignificant (sample : DbSample) : Bool :=
  0 < sample.rows || 0 < sample.errors || sample.acquireUs.isSome ||
    sample.queryUs.isSome || 0 < sample.poolSize

def QuicSample.isSignificant (sample : QuicSample) : Bool :=
  sample.handshakeUs.isSome || sample.usedZeroRtt || sample.retransmits.isSome

structure Percentiles where
  meanMs : ℚ := 0
  p50Ms : ℚ := 0
  p90Ms : ℚ := 0
  p99Ms : ℚ := 0
  deriving DecidableEq, Repr

def Percentiles.fromHistogram (hdr : HdrStatistics) (histogram : Histogram) : Percentiles :=
  if histogram.isEmpty then
    {}
  else
    let ms := fun value : Nat => (value : ℚ) / microsPerMilli
    { meanMs := hdr.mean histogram / microsPerMilli
      p50Ms := ms (hdr.valueAtQuantile histogram (50 / 100))
      p90Ms := ms (hdr.valueAtQuantile histogram (90 / 100))
      p99Ms := ms (hdr.valueAtQuantile histogram (99 / 100)) }

/-- `fold_percentiles`: an empty histogram leaves the values untouched. -/
def Percentiles.fold (hdr : HdrStatistics) (histogram : Histogram) (untouched : Percentiles) :
    Percentiles :=
  if histogram.isEmpty then untouched else fromHistogram hdr histogram

structure QuicMetrics where
  zeroRttAcceptedCount : Nat := 0
  retransmissions : Nat := 0
  avgHandshakeMs : Option ℚ := none
  deriving DecidableEq, Repr

structure SseMetrics where
  totalEventsReceived : Nat := 0
  avgTtfbMs : Option ℚ := none
  deriving DecidableEq, Repr

structure GraphqlMetrics where
  operationsTotal : Nat := 0
  errorResponsesTotal : Nat := 0
  errorsTotal : Nat := 0
  operationType : String := ""
  deriving DecidableEq, Repr

structure GraphqlWsMetrics where
  operationsTotal : Nat := 0
  messagesTotal : Nat := 0
  errorsTotal : Nat := 0
  ttfm : Percentiles := {}
  interval : Percentiles := {}
  deriving DecidableEq, Repr

structure SoapMetrics where
  operationsTotal : Nat := 0
  faultResponsesTotal : Nat := 0
  soapVersion : String := ""
  deriving DecidableEq, Repr

structure StompMetrics where
  messagesSentTotal : Nat := 0
  messagesReceivedTotal : Nat := 0
  bytesSentTotal : Nat := 0
  errorsTotal : Nat := 0
  reconnectsTotal : Nat := 0
  destination : String := ""
  mode : String := ""
  ackMode : String := ""
  receiptsEnabled : Bool := false
  sendLatency : Percentiles := {}
  receiveInterval : Percentiles := {}
  ttfm : Percentiles := {}
  deriving DecidableEq, Repr

structure DatabaseMetrics where
  driver : String := ""
  queriesTotal : Nat := 0
  rowsTotal : Nat := 0
  errorsTotal : Nat := 0
  poolMax : Nat := 0
  poolSize : Nat := 0
  fetchMode : String := ""
  poolAcquire : Percentiles := {}
  query : Percentiles := {}
  deriving DecidableEq, Repr

structure WebsocketMetrics where
  pingsSentTotal : Nat := 0
  pingsReceivedTotal : Nat := 0
  pongsSolicitedTotal : Nat := 0
  pongsUnsolicitedTotal : Nat := 0
  backpressureMaxBytes : Nat := 0
  backpressureMeanBytes : ℚ := 0
  backpressureThresholdBreaches : Nat := 0
  deriving DecidableEq, Repr

structure GrpcMetrics where
  activeStreamsPeak : Nat := 0
  concurrencyUtilizationPeak : ℚ := 0
  concurrencyUtilizationMean : ℚ := 0
  windowExhaustionEventsTotal : Nat := 0
  windowStallDurationMsTotal : ℚ := 0
  sendCapacityMinBytes : Nat := 0
  deriving DecidableEq, Repr

structure Http3Metrics where
  cwndBytesCurrent : Nat := 0
  cwndBytesMin : Nat := 0
  cwndBytesMax : Nat := 0
  cwndBytesMean : ℚ := 0
  migrationsAttemptedTotal : Nat := 0
  migrationsSuccessfulTotal : Nat := 0
  migrationSuccessRate : ℚ := 0
  deriving DecidableEq, Repr

/-! ## Percentiles of a section -/

def graphqlWsStatsFromHistograms
    (hdr : HdrStatistics) (stats : GraphqlWsMetrics) (ttfm interval : Histogram) :
    GraphqlWsMetrics :=
  { stats with
    ttfm := Percentiles.fold hdr ttfm stats.ttfm
    interval := Percentiles.fold hdr interval stats.interval }

def stompStatsFromHistograms
    (hdr : HdrStatistics) (stats : StompMetrics) (send interval ttfm : Histogram) :
    StompMetrics :=
  { stats with
    sendLatency := Percentiles.fold hdr send stats.sendLatency
    receiveInterval := Percentiles.fold hdr interval stats.receiveInterval
    ttfm := Percentiles.fold hdr ttfm stats.ttfm }

def dbStatsFromHistograms
    (hdr : HdrStatistics) (stats : DatabaseMetrics) (acquire query : Histogram) :
    DatabaseMetrics :=
  { stats with
    poolAcquire := Percentiles.fold hdr acquire stats.poolAcquire
    query := Percentiles.fold hdr query stats.query }

end Strobengine.Metrics
