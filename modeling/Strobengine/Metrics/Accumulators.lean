import Strobengine.Metrics.Aggregate
import Strobengine.Metrics.Protocols

/-!
# Protocol accumulators

One accumulator per protocol folds in the samples of its own protocol. Counters are unbounded
naturals; a minimum starts at `u64::MAX`.
-/

namespace Strobengine.Metrics

def recordOption (histogram : Histogram) : Option Nat → Histogram
  | none => histogram
  | some value => record histogram value

structure QuicAccumulator where
  stats : QuicMetrics := {}
  has : Bool := false
  handshakeSumUs : Nat := 0
  handshakeCount : Nat := 0

def QuicAccumulator.record (accumulator : QuicAccumulator) (sample : QuicSample) :
    QuicAccumulator :=
  if sample.isSignificant then
    { stats :=
        { accumulator.stats with
          zeroRttAcceptedCount :=
            if sample.usedZeroRtt then accumulator.stats.zeroRttAcceptedCount + 1
            else accumulator.stats.zeroRttAcceptedCount
          retransmissions :=
            accumulator.stats.retransmissions + sample.retransmits.getD 0 }
      has := true
      handshakeSumUs := accumulator.handshakeSumUs + sample.handshakeUs.getD 0
      handshakeCount :=
        if sample.handshakeUs.isSome then accumulator.handshakeCount + 1
        else accumulator.handshakeCount }
  else
    accumulator

def QuicAccumulator.finish (accumulator : QuicAccumulator) : Option QuicMetrics :=
  if accumulator.has then
    some
      { accumulator.stats with
        avgHandshakeMs :=
          if 0 < accumulator.handshakeCount then
            some ((accumulator.handshakeSumUs : ℚ) / accumulator.handshakeCount / 1000)
          else
            accumulator.stats.avgHandshakeMs }
  else
    none

structure SseAccumulator where
  stats : SseMetrics := {}
  firstEventSumUs : Nat := 0
  firstEventCount : Nat := 0

def SseAccumulator.record (accumulator : SseAccumulator) (sample : SseSample) : SseAccumulator :=
  { stats :=
      { accumulator.stats with
        totalEventsReceived :=
          accumulator.stats.totalEventsReceived + sample.eventsReceived.getD 0 }
    firstEventSumUs := accumulator.firstEventSumUs + sample.firstEventUs.getD 0
    firstEventCount :=
      if sample.firstEventUs.isSome then accumulator.firstEventCount + 1
      else accumulator.firstEventCount }

def SseAccumulator.finish (accumulator : SseAccumulator) : Option SseMetrics :=
  if 0 < accumulator.stats.totalEventsReceived ∨ 0 < accumulator.firstEventCount then
    some
      { accumulator.stats with
        avgTtfbMs :=
          if 0 < accumulator.firstEventCount then
            some ((accumulator.firstEventSumUs : ℚ) / accumulator.firstEventCount / 1000)
          else
            accumulator.stats.avgTtfbMs }
  else
    none

/-! ## GraphQL over HTTP -/

structure GraphqlAccumulator where
  stats : GraphqlMetrics := {}
  has : Bool := false

def GraphqlAccumulator.record (accumulator : GraphqlAccumulator) (sample : GraphqlSample) :
    GraphqlAccumulator :=
  { stats :=
      { accumulator.stats with
        operationsTotal := accumulator.stats.operationsTotal + 1
        errorResponsesTotal :=
          if 0 < sample.errors then accumulator.stats.errorResponsesTotal + 1
          else accumulator.stats.errorResponsesTotal
        errorsTotal := accumulator.stats.errorsTotal + sample.errors }
    has := true }

def GraphqlAccumulator.finish (accumulator : GraphqlAccumulator) : Option GraphqlMetrics :=
  if accumulator.has then some accumulator.stats else none

/-! ## GraphQL over WebSocket -/

structure GraphqlWsAccumulator where
  stats : GraphqlWsMetrics := {}
  has : Bool := false
  ttfm : Histogram := []
  interval : Histogram := []

/-- Every field of a sample that is present makes the section appear; a message is counted
by its interval. -/
def GraphqlWsAccumulator.record (accumulator : GraphqlWsAccumulator) (sample : GraphqlWsSample) :
    GraphqlWsAccumulator :=
  { stats :=
      { accumulator.stats with
        operationsTotal :=
          accumulator.stats.operationsTotal + sample.operations.getD 0
        messagesTotal :=
          if sample.intervalUs.isSome then accumulator.stats.messagesTotal + 1
          else accumulator.stats.messagesTotal
        errorsTotal := accumulator.stats.errorsTotal + sample.errors.getD 0 }
    has :=
      accumulator.has || sample.operations.isSome || sample.ttfmUs.isSome ||
        sample.intervalUs.isSome || sample.errors.isSome
    ttfm := recordOption accumulator.ttfm sample.ttfmUs
    interval := recordOption accumulator.interval sample.intervalUs }

def GraphqlWsAccumulator.finish (hdr : HdrStatistics) (accumulator : GraphqlWsAccumulator) :
    Option GraphqlWsMetrics :=
  if accumulator.has then
    some
      (graphqlWsStatsFromHistograms hdr accumulator.stats accumulator.ttfm
        accumulator.interval)
  else
    none

structure SoapAccumulator where
  stats : SoapMetrics := {}
  has : Bool := false

def SoapAccumulator.record (accumulator : SoapAccumulator) (sample : SoapSample) :
    SoapAccumulator :=
  { stats :=
      { accumulator.stats with
        operationsTotal := accumulator.stats.operationsTotal + 1
        faultResponsesTotal :=
          if 0 < sample.faults then accumulator.stats.faultResponsesTotal + 1
          else accumulator.stats.faultResponsesTotal }
    has := true }

def SoapAccumulator.finish (accumulator : SoapAccumulator) : Option SoapMetrics :=
  if accumulator.has then some accumulator.stats else none

structure StompAccumulator where
  stats : StompMetrics := {}
  has : Bool := false
  send : Histogram := []
  interval : Histogram := []
  ttfm : Histogram := []

def StompAccumulator.record (accumulator : StompAccumulator) (sample : StompSample) :
    StompAccumulator :=
  if sample.isSignificant then
    { stats :=
        { accumulator.stats with
          messagesSentTotal := accumulator.stats.messagesSentTotal + sample.messagesSent
          messagesReceivedTotal :=
            accumulator.stats.messagesReceivedTotal + sample.messagesReceived
          bytesSentTotal := accumulator.stats.bytesSentTotal + sample.bytesSent
          errorsTotal := accumulator.stats.errorsTotal + sample.errors
          reconnectsTotal := accumulator.stats.reconnectsTotal + sample.reconnects }
      has := true
      send := recordOption accumulator.send sample.sendLatencyUs
      interval := recordOption accumulator.interval sample.receiveIntervalUs
      ttfm := recordOption accumulator.ttfm sample.ttfmUs }
  else
    accumulator

def StompAccumulator.finish (hdr : HdrStatistics) (accumulator : StompAccumulator) :
    Option StompMetrics :=
  if accumulator.has then
    some
      (stompStatsFromHistograms hdr accumulator.stats accumulator.send accumulator.interval
        accumulator.ttfm)
  else
    none

structure DbAccumulator where
  stats : DatabaseMetrics := {}
  has : Bool := false
  acquire : Histogram := []
  query : Histogram := []

def DbAccumulator.record (accumulator : DbAccumulator) (sample : DbSample) : DbAccumulator :=
  if sample.isSignificant then
    { stats :=
        { accumulator.stats with
          queriesTotal := accumulator.stats.queriesTotal + 1
          rowsTotal := accumulator.stats.rowsTotal + sample.rows
          errorsTotal := accumulator.stats.errorsTotal + sample.errors
          poolSize :=
            if 0 < sample.poolSize then sample.poolSize else accumulator.stats.poolSize }
      has := true
      acquire := recordOption accumulator.acquire sample.acquireUs
      query := recordOption accumulator.query sample.queryUs }
  else
    accumulator

def DbAccumulator.finish (hdr : HdrStatistics) (accumulator : DbAccumulator) :
    Option DatabaseMetrics :=
  if accumulator.has then
    some
      (dbStatsFromHistograms hdr accumulator.stats accumulator.acquire accumulator.query)
  else
    none

structure WsAccumulator where
  stats : WebsocketMetrics := {}
  has : Bool := false
  bpSum : Nat := 0
  bpCount : Nat := 0

def WsAccumulator.record (accumulator : WsAccumulator) (sample : WsSample) : WsAccumulator :=
  if sample.isSignificant then
    { stats :=
        { accumulator.stats with
          pingsSentTotal := accumulator.stats.pingsSentTotal + sample.pingsSent
          pingsReceivedTotal := accumulator.stats.pingsReceivedTotal + sample.pingsReceived
          pongsSolicitedTotal :=
            accumulator.stats.pongsSolicitedTotal + sample.pongsSolicited
          pongsUnsolicitedTotal :=
            accumulator.stats.pongsUnsolicitedTotal + sample.pongsUnsolicited
          backpressureMaxBytes :=
            max accumulator.stats.backpressureMaxBytes sample.backpressureMaxBytes
          backpressureThresholdBreaches :=
            accumulator.stats.backpressureThresholdBreaches + sample.thresholdBreaches }
      has := true
      bpSum := accumulator.bpSum + sample.backpressureSamplesSum
      bpCount := accumulator.bpCount + sample.backpressureSampleCount }
  else
    accumulator

def WsAccumulator.finish (accumulator : WsAccumulator) : Option WebsocketMetrics :=
  if accumulator.has then
    some
      { accumulator.stats with
        backpressureMeanBytes :=
          if 0 < accumulator.bpCount then (accumulator.bpSum : ℚ) / accumulator.bpCount
          else accumulator.stats.backpressureMeanBytes }
  else
    none

structure GrpcAccumulator where
  stats : GrpcMetrics := {}
  has : Bool := false
  utilSum : ℚ := 0
  utilCount : Nat := 0
  capacityMin : Nat := u64Max
  stallSumUs : Nat := 0

def GrpcAccumulator.record (accumulator : GrpcAccumulator) (sample : GrpcSample) :
    GrpcAccumulator :=
  if sample.isSignificant then
    { stats :=
        { accumulator.stats with
          activeStreamsPeak := max accumulator.stats.activeStreamsPeak sample.activeStreams
          concurrencyUtilizationPeak :=
            max accumulator.stats.concurrencyUtilizationPeak sample.utilization
          windowExhaustionEventsTotal :=
            accumulator.stats.windowExhaustionEventsTotal + sample.windowExhaustionEvents }
      has := true
      utilSum := accumulator.utilSum + sample.utilization
      utilCount := accumulator.utilCount + 1
      capacityMin :=
        if sample.hasSendCapacity then min accumulator.capacityMin sample.sendCapacityBytes
        else accumulator.capacityMin
      stallSumUs := accumulator.stallSumUs + sample.windowStallUs }
  else
    accumulator

def GrpcAccumulator.finish (accumulator : GrpcAccumulator) : Option GrpcMetrics :=
  if accumulator.has then
    some
      { accumulator.stats with
        concurrencyUtilizationMean :=
          if 0 < accumulator.utilCount then accumulator.utilSum / accumulator.utilCount
          else accumulator.stats.concurrencyUtilizationMean
        windowStallDurationMsTotal := (accumulator.stallSumUs : ℚ) / 1000
        sendCapacityMinBytes :=
          if accumulator.capacityMin = u64Max then 0 else accumulator.capacityMin }
  else
    none

structure Http3Accumulator where
  stats : Http3Metrics := {}
  has : Bool := false
  cwndSum : Nat := 0
  cwndCount : Nat := 0
  cwndMin : Nat := u64Max

def Http3Accumulator.record (accumulator : Http3Accumulator) (sample : Http3Sample) :
    Http3Accumulator :=
  if sample.isSignificant then
    { stats :=
        { accumulator.stats with
          cwndBytesCurrent := sample.cwndBytes
          cwndBytesMax := max accumulator.stats.cwndBytesMax sample.cwndBytes
          migrationsAttemptedTotal :=
            accumulator.stats.migrationsAttemptedTotal + sample.migrationsAttempted
          migrationsSuccessfulTotal :=
            accumulator.stats.migrationsSuccessfulTotal + sample.migrationsSuccessful }
      has := true
      cwndSum := accumulator.cwndSum + sample.cwndBytes
      cwndCount := accumulator.cwndCount + 1
      cwndMin := min accumulator.cwndMin sample.cwndBytes }
  else
    accumulator

def Http3Accumulator.finish (accumulator : Http3Accumulator) : Option Http3Metrics :=
  if accumulator.has then
    some
      { accumulator.stats with
        cwndBytesMean :=
          if 0 < accumulator.cwndCount then
            (accumulator.cwndSum : ℚ) / accumulator.cwndCount
          else
            accumulator.stats.cwndBytesMean
        cwndBytesMin :=
          if accumulator.cwndMin = u64Max then 0 else accumulator.cwndMin
        -- no migrations required: trivially successful
        migrationSuccessRate :=
          if accumulator.stats.migrationsAttemptedTotal = 0 then
            1
          else
            (accumulator.stats.migrationsSuccessfulTotal : ℚ) /
              accumulator.stats.migrationsAttemptedTotal }
  else
    none

structure ProtocolAccumulators where
  quic : QuicAccumulator := {}
  sse : SseAccumulator := {}
  graphql : GraphqlAccumulator := {}
  graphqlWs : GraphqlWsAccumulator := {}
  soap : SoapAccumulator := {}
  stomp : StompAccumulator := {}
  db : DbAccumulator := {}
  ws : WsAccumulator := {}
  grpc : GrpcAccumulator := {}
  http3 : Http3Accumulator := {}

def ProtocolAccumulators.record (accumulators : ProtocolAccumulators) :
    Option ProtocolSample → ProtocolAccumulators
  | none => accumulators
  | some (.http3 http3 quic) =>
    { accumulators with
      quic :=
        match quic with
        | some sample => accumulators.quic.record sample
        | none => accumulators.quic
      http3 :=
        match http3 with
        | some sample => accumulators.http3.record sample
        | none => accumulators.http3 }
  | some (.sse sample) => { accumulators with sse := accumulators.sse.record sample }
  | some (.graphql sample) => { accumulators with graphql := accumulators.graphql.record sample }
  | some (.graphqlWs sample) =>
    { accumulators with graphqlWs := accumulators.graphqlWs.record sample }
  | some (.soap sample) => { accumulators with soap := accumulators.soap.record sample }
  | some (.stomp sample) => { accumulators with stomp := accumulators.stomp.record sample }
  | some (.db sample) => { accumulators with db := accumulators.db.record sample }
  | some (.ws sample) => { accumulators with ws := accumulators.ws.record sample }
  | some (.grpc sample) => { accumulators with grpc := accumulators.grpc.record sample }

end Strobengine.Metrics
