import Strobengine.Metrics.Finalize

/-!
# What the sections count

The totals in the sections of the result are sums over the metrics received, in whatever
order and at whatever times these arrived.
-/

namespace Strobengine.Metrics

open Foundations

namespace RequestMetric

def sseEvents (metric : RequestMetric) : Nat :=
  ((metric.protocol.bind ProtocolSample.sse?).bind SseSample.eventsReceived).getD 0

def zeroRtt (metric : RequestMetric) : Nat :=
  ((metric.protocol.bind ProtocolSample.quic?).elim false QuicSample.usedZeroRtt).toNat

def intervals (metric : RequestMetric) : Nat :=
  if ((metric.protocol.bind ProtocolSample.graphqlWs?).bind
      GraphqlWsSample.intervalUs).isSome then 1 else 0

end RequestMetric

namespace FinalizedMetrics

def totalEventsReceived (metrics : FinalizedMetrics) : Nat :=
  metrics.sseMetrics.elim 0 SseMetrics.totalEventsReceived

def zeroRttAcceptedCount (metrics : FinalizedMetrics) : Nat :=
  metrics.quicMetrics.elim 0 QuicMetrics.zeroRttAcceptedCount

def messagesTotal (metrics : FinalizedMetrics) : Nat :=
  metrics.graphqlWsMetrics.elim 0 GraphqlWsMetrics.messagesTotal

end FinalizedMetrics

theorem totalEventsReceived_finish (accumulator : SseAccumulator) :
    accumulator.finish.elim 0 SseMetrics.totalEventsReceived =
      accumulator.stats.totalEventsReceived := by
  unfold SseAccumulator.finish
  split
  · rfl
  · rename_i nothing
    change 0 = _
    omega

theorem messagesTotal_finish (hdr : HdrStatistics) {accumulator : GraphqlWsAccumulator}
    (counted : accumulator.has = false → accumulator.stats.messagesTotal = 0) :
    (accumulator.finish hdr).elim 0 GraphqlWsMetrics.messagesTotal =
      accumulator.stats.messagesTotal := by
  unfold GraphqlWsAccumulator.finish
  cases has : accumulator.has with
  | true => rfl
  | false => exact (counted has).symm

theorem counter_foldl_receive
    {Sample Accumulator : Type} {part : ProtocolAccumulators → Accumulator}
    {pick : ProtocolSample → Option Sample} {record : Accumulator → Sample → Accumulator}
    {count : Accumulator → Nat} {added : Sample → Nat} {weight : RequestMetric → Nat}
    (recorded :
      ∀ accumulators protocol,
        part (ProtocolAccumulators.record accumulators protocol) =
          (protocol.bind pick).elim (part accumulators) (record (part accumulators)))
    (counts :
      ∀ accumulator sample, count (record accumulator sample) = count accumulator + added sample)
    (weighs : ∀ metric, weight metric = (metric.protocol.bind pick).elim 0 added)
    (hdr : HdrStatistics) (rounds : List Round) (aggregation : Aggregation) :
    count (part (rounds.foldl (Aggregation.receive hdr) aggregation).protocols) =
      count (part aggregation.protocols) + ((rounds.map Round.metric).map weight).sum := by
  have grows :
      ∀ (aggregation : Aggregation) (round : Round),
        count (part (aggregation.receive hdr round).protocols) =
          count (part aggregation.protocols) + weight round.metric := by
    intro aggregation round
    rw [weighs]
    refine (congrArg count (recorded aggregation.protocols round.metric.protocol)).trans ?_
    cases round.metric.protocol.bind pick with
    | none => rfl
    | some sample => exact counts _ sample
  rw [List.map_map]
  exact
    @foldl_add _ _ _ (fun aggregation => count (part aggregation.protocols)) _ grows rounds
      aggregation

theorem totalEventsReceived_finalizeMetrics
    (hdr : HdrStatistics) (timelineIntervalMs : Nat) (started ended : Nat → Nat)
    (rounds : List Round) :
    (finalizeMetrics hdr timelineIntervalMs started rounds ended).totalEventsReceived =
      ((rounds.map Round.metric).map RequestMetric.sseEvents).sum := by
  have recorded :
      ∀ (accumulators : ProtocolAccumulators) protocol,
        (accumulators.record protocol).sse =
          (protocol.bind ProtocolSample.sse?).elim accumulators.sse accumulators.sse.record :=
    fun accumulators protocol => by rw [ProtocolAccumulators.record_eq]
  have total :=
    @counter_foldl_receive _ _ _ _ _ (fun accumulator => accumulator.stats.totalEventsReceived)
      (fun sample => sample.eventsReceived.getD 0) RequestMetric.sseEvents recorded
      (fun _ _ => rfl)
      (fun metric => by
        unfold RequestMetric.sseEvents
        cases metric.protocol.bind ProtocolSample.sse? <;> rfl)
      hdr rounds (Aggregation.new timelineIntervalMs started)
  exact (totalEventsReceived_finish _).trans (total.trans (Nat.zero_add _))

theorem messagesTotal_finalizeMetrics
    (hdr : HdrStatistics) (timelineIntervalMs : Nat) (started ended : Nat → Nat)
    (rounds : List Round) :
    (finalizeMetrics hdr timelineIntervalMs started rounds ended).messagesTotal =
      ((rounds.map Round.metric).map RequestMetric.intervals).sum := by
  have recorded :
      ∀ (accumulators : ProtocolAccumulators) protocol,
        (accumulators.record protocol).graphqlWs =
          (protocol.bind ProtocolSample.graphqlWs?).elim accumulators.graphqlWs
            accumulators.graphqlWs.record :=
    fun accumulators protocol => by rw [ProtocolAccumulators.record_eq]
  have total :=
    @counter_foldl_receive _ _ _ _ _ (fun accumulator => accumulator.stats.messagesTotal)
      (fun sample => if sample.intervalUs.isSome then 1 else 0) RequestMetric.intervals recorded
      (fun accumulator sample => by
        unfold GraphqlWsAccumulator.record
        split_ifs <;> rfl)
      (fun metric => by
        unfold RequestMetric.intervals
        cases metric.protocol.bind ProtocolSample.graphqlWs? <;> rfl)
      hdr rounds (Aggregation.new timelineIntervalMs started)
  refine (messagesTotal_finish hdr ?_).trans (total.trans (Nat.zero_add _))
  rw [accumulator_foldl_receive recorded]
  refine
    foldl_invariant
      (fun accumulator : GraphqlWsAccumulator =>
        accumulator.has = false → accumulator.stats.messagesTotal = 0)
      ?_ _ (fun _ => rfl)
  intro accumulator sample before missing
  simp only [GraphqlWsAccumulator.record, Bool.or_eq_false_iff] at missing ⊢
  simp [missing, before]

theorem zeroRttAcceptedCount_record (accumulator : QuicAccumulator) (sample : QuicSample) :
    (accumulator.record sample).stats.zeroRttAcceptedCount =
      accumulator.stats.zeroRttAcceptedCount + sample.usedZeroRtt.toNat := by
  unfold QuicAccumulator.record
  cases used : sample.usedZeroRtt with
  | false => split <;> rfl
  | true =>
    -- a sample with 0-RTT is significant
    rw [if_pos (by simp [QuicSample.isSignificant, used])]
    rfl

theorem record_of_has_eq_false {accumulator : QuicAccumulator} {sample : QuicSample}
    (missing : (accumulator.record sample).has = false) :
    accumulator.record sample = accumulator := by
  unfold QuicAccumulator.record at missing ⊢
  split at missing
  · cases missing
  · rename_i insignificant
    rw [if_neg insignificant]

theorem zeroRttAcceptedCount_finish {accumulator : QuicAccumulator}
    (counted : accumulator.has = false → accumulator.stats.zeroRttAcceptedCount = 0) :
    accumulator.finish.elim 0 QuicMetrics.zeroRttAcceptedCount =
      accumulator.stats.zeroRttAcceptedCount := by
  unfold QuicAccumulator.finish
  cases has : accumulator.has with
  | true => rfl
  | false => exact (counted has).symm

theorem zeroRttAcceptedCount_finalizeMetrics
    (hdr : HdrStatistics) (timelineIntervalMs : Nat) (started ended : Nat → Nat)
    (rounds : List Round) :
    (finalizeMetrics hdr timelineIntervalMs started rounds ended).zeroRttAcceptedCount =
      ((rounds.map Round.metric).map RequestMetric.zeroRtt).sum := by
  have recorded :
      ∀ (accumulators : ProtocolAccumulators) protocol,
        (accumulators.record protocol).quic =
          (protocol.bind ProtocolSample.quic?).elim accumulators.quic
            accumulators.quic.record :=
    fun accumulators protocol => by rw [ProtocolAccumulators.record_eq]
  have total :=
    @counter_foldl_receive _ _ _ _ _ (fun accumulator => accumulator.stats.zeroRttAcceptedCount)
      (fun sample => sample.usedZeroRtt.toNat) RequestMetric.zeroRtt recorded
      zeroRttAcceptedCount_record
      (fun metric => by
        unfold RequestMetric.zeroRtt
        cases metric.protocol.bind ProtocolSample.quic? <;> rfl)
      hdr rounds (Aggregation.new timelineIntervalMs started)
  refine (zeroRttAcceptedCount_finish ?_).trans (total.trans (Nat.zero_add _))
  rw [accumulator_foldl_receive recorded]
  refine
    foldl_invariant
      (fun accumulator : QuicAccumulator =>
        accumulator.has = false → accumulator.stats.zeroRttAcceptedCount = 0)
      ?_ _ (fun _ => rfl)
  intro accumulator sample before missing
  have same : accumulator.record sample = accumulator := record_of_has_eq_false missing
  rw [same] at missing ⊢
  exact before missing

def receivedAtOnce (metrics : List RequestMetric) : List Round :=
  metrics.map (fun metric => ⟨metric, 0⟩)

theorem perm_receivedAtOnce (metrics : List RequestMetric) :
    ((receivedAtOnce metrics).map Round.metric).Perm metrics := by
  have same : (receivedAtOnce metrics).map Round.metric = metrics := by
    simp [receivedAtOnce, Function.comp_def]
  rw [same]

end Strobengine.Metrics
