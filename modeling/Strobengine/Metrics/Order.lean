import Strobengine.Metrics.Finalize
import Mathlib.Algebra.Order.Round

/-!
# The order of arrival

`finalize_metrics` aggregates metrics to the same result in every order, up to the timeline and two
values that are those of the last sample: the current congestion window of HTTP/3 and the pool size
of a database.
-/

namespace Strobengine.Metrics

open Foundations Rust

/-- The statistics of a histogram depend on which values were recorded, not on their
order. -/
structure HdrStatistics.OrderFree (hdr : HdrStatistics) : Prop where
  valueAtQuantile :
    ∀ {first second : Histogram}, first.Perm second →
      hdr.valueAtQuantile first = hdr.valueAtQuantile second
  mean : ∀ {first second : Histogram}, first.Perm second → hdr.mean first = hdr.mean second

theorem recordOption_perm {first second : Histogram} (perm : first.Perm second)
    (value : Option Nat) :
    (recordOption first value).Perm (recordOption second value) := by
  cases value with
  | none => exact perm
  | some => exact perm.append_right _

theorem recordOption_swap (histogram : Histogram) (left right : Option Nat) :
    (recordOption (recordOption histogram left) right).Perm
      (recordOption (recordOption histogram right) left) := by
  cases left with
  | none => exact List.Perm.refl _
  | some =>
    cases right with
    | none => exact List.Perm.refl _
    | some =>
      simp only [recordOption, record, saturatingRecord, List.append_assoc]
      exact (List.Perm.swap _ _ []).append_left histogram

theorem Percentiles.fold_perm {hdr : HdrStatistics} (orderFree : hdr.OrderFree)
    {first second : Histogram} (perm : first.Perm second) (untouched : Percentiles) :
    Percentiles.fold hdr first untouched = Percentiles.fold hdr second untouched := by
  have empty : first.isEmpty = second.isEmpty := by
    rw [Bool.eq_iff_iff, List.isEmpty_iff, List.isEmpty_iff]
    exact ⟨fun none => (none ▸ perm).symm.eq_nil, fun none => (none ▸ perm).eq_nil⟩
  unfold Percentiles.fold Percentiles.fromHistogram
  rw [empty, orderFree.valueAtQuantile perm, orderFree.mean perm]

/-! ## Accumulators of sums and extremes -/

theorem ite_update_comm {State : Type} (first second : State → State)
    (comm : ∀ state, second (first state) = first (second state))
    (before after : Prop) [Decidable before] [Decidable after] (state : State) :
    (if after then second (if before then first state else state)
      else if before then first state else state) =
      if before then first (if after then second state else state)
      else if after then second state else state := by
  by_cases happens : before
  · by_cases follows : after
    · simp only [if_pos happens, if_pos follows, comm]
    · simp only [if_pos happens, if_neg follows]
  · simp only [if_neg happens]

theorem commuting_quic : Commuting QuicAccumulator.record Eq := by
  apply Commuting.of_eq
  intro accumulator left right
  have counted := ite_update_comm (fun count : Nat => count + 1) (fun count => count + 1)
    (fun _ => rfl)
  unfold QuicAccumulator.record
  by_cases leftCounts : left.isSignificant = true
  · by_cases rightCounts : right.isSignificant = true
    · simp only [if_pos leftCounts, if_pos rightCounts, Nat.add_right_comm,
        counted (left.usedZeroRtt = true), counted (left.handshakeUs.isSome = true)]
    · simp only [if_pos leftCounts, if_neg rightCounts]
  · simp only [if_neg leftCounts]

theorem commuting_sse : Commuting SseAccumulator.record Eq := by
  apply Commuting.of_eq
  intro accumulator left right
  unfold SseAccumulator.record
  split_ifs <;> simp only [Nat.add_right_comm]

theorem commuting_graphql : Commuting GraphqlAccumulator.record Eq := by
  apply Commuting.of_eq
  intro accumulator left right
  unfold GraphqlAccumulator.record
  split_ifs <;> simp only [Nat.add_right_comm]

theorem commuting_soap : Commuting SoapAccumulator.record Eq := by
  apply Commuting.of_eq
  intro accumulator left right
  unfold SoapAccumulator.record
  split_ifs <;> simp

theorem commuting_ws : Commuting WsAccumulator.record Eq := by
  apply Commuting.of_eq
  intro accumulator left right
  unfold WsAccumulator.record
  split_ifs <;> simp only [Nat.add_right_comm, max_right_comm]

theorem commuting_grpc : Commuting GrpcAccumulator.record Eq := by
  apply Commuting.of_eq
  intro accumulator left right
  have lowest := ite_update_comm (fun capacity => min capacity left.sendCapacityBytes)
    (fun capacity => min capacity right.sendCapacityBytes) (fun _ => min_right_comm _ _ _)
  unfold GrpcAccumulator.record
  by_cases leftCounts : left.isSignificant = true
  · by_cases rightCounts : right.isSignificant = true
    · simp only [if_pos leftCounts, if_pos rightCounts, add_right_comm, max_right_comm,
        lowest (left.hasSendCapacity = true)]
    · simp only [if_pos leftCounts, if_neg rightCounts]
  · simp only [if_neg leftCounts]

namespace GraphqlWsAccumulator

structure Alike (first second : GraphqlWsAccumulator) : Prop where
  stats : first.stats = second.stats
  has : first.has = second.has
  ttfm : first.ttfm.Perm second.ttfm
  interval : first.interval.Perm second.interval

theorem commuting : Commuting record Alike where
  refl := fun _ => ⟨rfl, rfl, .refl _, .refl _⟩
  trans := fun before after =>
    ⟨before.stats.trans after.stats, before.has.trans after.has,
      before.ttfm.trans after.ttfm, before.interval.trans after.interval⟩
  kept := by
    intro first second sample alike
    constructor
    · simp only [record, alike.stats]
    · simp only [record, alike.has]
    · exact recordOption_perm alike.ttfm sample.ttfmUs
    · exact recordOption_perm alike.interval sample.intervalUs
  swapped := by
    intro accumulator left right
    constructor
    · unfold record
      split_ifs <;> simp [Nat.add_right_comm]
    · simp only [record]
      ac_rfl
    · exact recordOption_swap accumulator.ttfm left.ttfmUs right.ttfmUs
    · exact recordOption_swap accumulator.interval left.intervalUs right.intervalUs

theorem Alike.finish {first second : GraphqlWsAccumulator} (alike : Alike first second)
    {hdr : HdrStatistics} (orderFree : hdr.OrderFree) :
    first.finish hdr = second.finish hdr := by
  unfold GraphqlWsAccumulator.finish graphqlWsStatsFromHistograms
  rw [alike.stats, alike.has, Percentiles.fold_perm orderFree alike.ttfm,
    Percentiles.fold_perm orderFree alike.interval]

end GraphqlWsAccumulator

namespace StompAccumulator

structure Alike (first second : StompAccumulator) : Prop where
  stats : first.stats = second.stats
  has : first.has = second.has
  send : first.send.Perm second.send
  interval : first.interval.Perm second.interval
  ttfm : first.ttfm.Perm second.ttfm

theorem commuting : Commuting record Alike := by
  apply Commuting.of_selected StompSample.isSignificant
  · exact fun _ => ⟨rfl, rfl, .refl _, .refl _, .refl _⟩
  · intro first second third before after
    exact
      ⟨before.stats.trans after.stats, before.has.trans after.has,
        before.send.trans after.send, before.interval.trans after.interval,
        before.ttfm.trans after.ttfm⟩
  · intro accumulator sample skipped
    simp [record, skipped]
  · intro first second sample counts alike
    simp only [record, counts, if_true]
    constructor
    · simp only [alike.stats]
    · rfl
    · exact recordOption_perm alike.send sample.sendLatencyUs
    · exact recordOption_perm alike.interval sample.receiveIntervalUs
    · exact recordOption_perm alike.ttfm sample.ttfmUs
  · intro accumulator left right leftCounts rightCounts
    simp only [record, leftCounts, rightCounts, if_true]
    constructor
    · simp [Nat.add_right_comm]
    · rfl
    · exact recordOption_swap accumulator.send left.sendLatencyUs right.sendLatencyUs
    · exact recordOption_swap accumulator.interval left.receiveIntervalUs right.receiveIntervalUs
    · exact recordOption_swap accumulator.ttfm left.ttfmUs right.ttfmUs

theorem Alike.finish {first second : StompAccumulator} (alike : Alike first second)
    {hdr : HdrStatistics} (orderFree : hdr.OrderFree) :
    first.finish hdr = second.finish hdr := by
  unfold StompAccumulator.finish stompStatsFromHistograms
  rw [alike.stats, alike.has, Percentiles.fold_perm orderFree alike.send,
    Percentiles.fold_perm orderFree alike.interval,
    Percentiles.fold_perm orderFree alike.ttfm]

end StompAccumulator

/-! ## Accumulators with a last value -/

def DatabaseMetrics.withoutPoolSize (stats : DatabaseMetrics) : DatabaseMetrics :=
  { stats with poolSize := 0 }

def Http3Metrics.withoutCurrent (stats : Http3Metrics) : Http3Metrics :=
  { stats with cwndBytesCurrent := 0 }

open DatabaseMetrics (withoutPoolSize)
open Http3Metrics (withoutCurrent)

namespace DbAccumulator

/-- Equal up to the size of the pool and the order of the recorded values. -/
structure Alike (first second : DbAccumulator) : Prop where
  stats : first.stats.withoutPoolSize = second.stats.withoutPoolSize
  has : first.has = second.has
  acquire : first.acquire.Perm second.acquire
  query : first.query.Perm second.query

theorem commuting : Commuting record Alike := by
  apply Commuting.of_selected DbSample.isSignificant
  · exact fun _ => ⟨rfl, rfl, .refl _, .refl _⟩
  · intro first second third before after
    exact
      ⟨before.stats.trans after.stats, before.has.trans after.has,
        before.acquire.trans after.acquire, before.query.trans after.query⟩
  · intro accumulator sample skipped
    simp [record, skipped]
  · intro first second sample counts alike
    have stats := alike.stats
    simp only [withoutPoolSize, DatabaseMetrics.mk.injEq] at stats
    simp only [record, counts, if_true]
    constructor
    · simp only [withoutPoolSize, stats]
    · rfl
    · exact recordOption_perm alike.acquire sample.acquireUs
    · exact recordOption_perm alike.query sample.queryUs
  · intro accumulator left right leftCounts rightCounts
    simp only [record, leftCounts, rightCounts, if_true]
    constructor
    · simp [withoutPoolSize, Nat.add_right_comm]
    · rfl
    · exact recordOption_swap accumulator.acquire left.acquireUs right.acquireUs
    · exact recordOption_swap accumulator.query left.queryUs right.queryUs

theorem Alike.finish {first second : DbAccumulator} (alike : Alike first second)
    {hdr : HdrStatistics} (orderFree : hdr.OrderFree) :
    (first.finish hdr).map withoutPoolSize =
      (second.finish hdr).map withoutPoolSize := by
  have stats := alike.stats
  simp only [withoutPoolSize, DatabaseMetrics.mk.injEq] at stats
  unfold DbAccumulator.finish dbStatsFromHistograms
  rw [alike.has, Percentiles.fold_perm orderFree alike.acquire,
    Percentiles.fold_perm orderFree alike.query]
  split_ifs
  · simp only [Option.map_some, withoutPoolSize, stats]
  · rfl

end DbAccumulator

namespace Http3Accumulator

structure Alike (first second : Http3Accumulator) : Prop where
  stats : first.stats.withoutCurrent = second.stats.withoutCurrent
  has : first.has = second.has
  cwndSum : first.cwndSum = second.cwndSum
  cwndCount : first.cwndCount = second.cwndCount
  cwndMin : first.cwndMin = second.cwndMin

theorem commuting : Commuting record Alike := by
  apply Commuting.of_selected Http3Sample.isSignificant
  · exact fun _ => ⟨rfl, rfl, rfl, rfl, rfl⟩
  · intro first second third before after
    exact
      ⟨before.stats.trans after.stats, before.has.trans after.has,
        before.cwndSum.trans after.cwndSum, before.cwndCount.trans after.cwndCount,
        before.cwndMin.trans after.cwndMin⟩
  · intro accumulator sample skipped
    simp [record, skipped]
  · intro first second sample counts alike
    have stats := alike.stats
    simp only [withoutCurrent, Http3Metrics.mk.injEq] at stats
    simp only [record, counts, if_true]
    constructor
    · simp only [withoutCurrent, stats]
    · rfl
    · simp only [alike.cwndSum]
    · simp only [alike.cwndCount]
    · simp only [alike.cwndMin]
  · intro accumulator left right leftCounts rightCounts
    simp only [record, leftCounts, rightCounts, if_true]
    constructor
    · simp [withoutCurrent, Nat.add_right_comm, max_right_comm]
    · rfl
    · exact Nat.add_right_comm _ _ _
    · rfl
    · exact min_right_comm _ _ _

theorem Alike.finish {first second : Http3Accumulator} (alike : Alike first second) :
    first.finish.map withoutCurrent =
      second.finish.map withoutCurrent := by
  have stats := alike.stats
  simp only [withoutCurrent, Http3Metrics.mk.injEq] at stats
  unfold Http3Accumulator.finish
  rw [alike.has, alike.cwndSum, alike.cwndCount, alike.cwndMin]
  split_ifs <;> simp_all [withoutCurrent]

end Http3Accumulator

namespace AggregatedMetrics

section Increment

variable {Key : Type} [DecidableEq Key]

theorem lookup_increment (key other : Key) (table : HashMap Key Nat) :
    (increment key table).lookup other =
      if other = key then some ((table.lookup key).getD 0 + 1) else table.lookup other :=
  HashMap.lookup_entryOr key other 0 (fun count => count + 1) table

theorem increment_congr (key : Key) {first second : HashMap Key Nat}
    (same : ∀ other, first.lookup other = second.lookup other) (other : Key) :
    (increment key first).lookup other = (increment key second).lookup other := by
  rw [lookup_increment, lookup_increment, same key, same other]

theorem increment_swap (left right : Key) (table : HashMap Key Nat) (other : Key) :
    (increment right (increment left table)).lookup other =
      (increment left (increment right table)).lookup other := by
  simp only [lookup_increment]
  by_cases same : left = right
  · rw [same]
  · have swapped : right ≠ left := Ne.symm same
    by_cases isLeft : other = left
    · simp [isLeft, same]
    · by_cases isRight : other = right
      · simp [isRight, swapped]
      · simp [isLeft, isRight]

end Increment

/-- Equal up to the order of the recorded values and of the entries of the tables. -/
structure Alike (first second : AggregatedMetrics) : Prop where
  latency : first.latencyHistogram.Perm second.latencyHistogram
  e2eLatency : first.e2eLatencyHistogram.Perm second.e2eLatencyHistogram
  connectionLatency : first.connectionLatencyHistogram.Perm second.connectionLatencyHistogram
  statusCodes : ∀ code, first.statusCodes.lookup code = second.statusCodes.lookup code
  totalBytes : first.totalBytes = second.totalBytes
  chaosInjectedTotal : first.chaosInjectedTotal = second.chaosInjectedTotal
  chaosFaultsByType :
    ∀ name, first.chaosFaultsByType.lookup name = second.chaosFaultsByType.lookup name
  totalSocketsCreated : first.totalSocketsCreated = second.totalSocketsCreated
  totalConnectionsReused : first.totalConnectionsReused = second.totalConnectionsReused
  dnsResolutionSumUs : first.dnsResolutionSumUs = second.dnsResolutionSumUs
  dnsResolutionCount : first.dnsResolutionCount = second.dnsResolutionCount

theorem e2eLatencyHistogram_receive (metrics : AggregatedMetrics) (metric : RequestMetric) :
    (metrics.receive metric).e2eLatencyHistogram =
      recordOption metrics.e2eLatencyHistogram
        (metric.connection.e2eLatencyUs.map (min · u64Max)) := by
  unfold receive recordCommon
  cases metric.connection.e2eLatencyUs with
  | none | some => rfl

theorem connectionLatencyHistogram_receive (metrics : AggregatedMetrics) (metric : RequestMetric) :
    (metrics.receive metric).connectionLatencyHistogram =
      recordOption metrics.connectionLatencyHistogram
        (metric.connection.connectionLatencyUs.map (min · u64Max)) := by
  unfold receive recordCommon
  cases metric.connection.connectionLatencyUs with
  | none | some => rfl

namespace Alike

theorem refl (metrics : AggregatedMetrics) : Alike metrics metrics :=
  ⟨.refl _, .refl _, .refl _, fun _ => rfl, rfl, rfl, fun _ => rfl, rfl, rfl, rfl, rfl⟩

theorem trans {first second third : AggregatedMetrics}
    (before : Alike first second) (after : Alike second third) : Alike first third where
  latency := before.latency.trans after.latency
  e2eLatency := before.e2eLatency.trans after.e2eLatency
  connectionLatency := before.connectionLatency.trans after.connectionLatency
  statusCodes code := (before.statusCodes code).trans (after.statusCodes code)
  totalBytes := before.totalBytes.trans after.totalBytes
  chaosInjectedTotal := before.chaosInjectedTotal.trans after.chaosInjectedTotal
  chaosFaultsByType name :=
    (before.chaosFaultsByType name).trans (after.chaosFaultsByType name)
  totalSocketsCreated := before.totalSocketsCreated.trans after.totalSocketsCreated
  totalConnectionsReused :=
    before.totalConnectionsReused.trans after.totalConnectionsReused
  dnsResolutionSumUs := before.dnsResolutionSumUs.trans after.dnsResolutionSumUs
  dnsResolutionCount := before.dnsResolutionCount.trans after.dnsResolutionCount

theorem receive {first second : AggregatedMetrics} (alike : Alike first second)
    (metric : RequestMetric) : Alike (first.receive metric) (second.receive metric) where
  latency := recordOption_perm alike.latency (some _)
  e2eLatency := by
    rw [e2eLatencyHistogram_receive, e2eLatencyHistogram_receive]
    exact recordOption_perm alike.e2eLatency _
  connectionLatency := by
    rw [connectionLatencyHistogram_receive, connectionLatencyHistogram_receive]
    exact recordOption_perm alike.connectionLatency _
  statusCodes := increment_congr metric.statusCode alike.statusCodes
  totalBytes := by simp only [AggregatedMetrics.receive, recordCommon, alike.totalBytes]
  chaosInjectedTotal := by
    simp only [AggregatedMetrics.receive, recordCommon, alike.chaosInjectedTotal]
  chaosFaultsByType := by
    intro name
    unfold AggregatedMetrics.receive recordCommon
    cases metric.chaosFault with
    | none => exact alike.chaosFaultsByType name
    | some fault => exact increment_congr fault.name alike.chaosFaultsByType name
  totalSocketsCreated := by
    simp only [AggregatedMetrics.receive, recordCommon, alike.totalSocketsCreated]
  totalConnectionsReused := by
    simp only [AggregatedMetrics.receive, recordCommon, alike.totalConnectionsReused]
  dnsResolutionSumUs := by
    simp only [AggregatedMetrics.receive, recordCommon, alike.dnsResolutionSumUs]
  dnsResolutionCount := by
    simp only [AggregatedMetrics.receive, recordCommon, alike.dnsResolutionCount]

theorem swapped (metrics : AggregatedMetrics) (left right : RequestMetric) :
    Alike ((metrics.receive left).receive right)
      ((metrics.receive right).receive left) where
  latency := recordOption_swap metrics.latencyHistogram (some _) (some _)
  e2eLatency := by
    simp only [e2eLatencyHistogram_receive]
    exact recordOption_swap _ _ _
  connectionLatency := by
    simp only [connectionLatencyHistogram_receive]
    exact recordOption_swap _ _ _
  statusCodes := increment_swap left.statusCode right.statusCode metrics.statusCodes
  totalBytes := Nat.add_right_comm _ _ _
  chaosInjectedTotal := by
    simp only [AggregatedMetrics.receive, recordCommon]
    split_ifs <;> rfl
  chaosFaultsByType := by
    intro name
    unfold AggregatedMetrics.receive recordCommon
    cases left.chaosFault with
    | none => rfl
    | some leftFault =>
      cases right.chaosFault with
      | none => rfl
      | some rightFault =>
        exact increment_swap leftFault.name rightFault.name metrics.chaosFaultsByType name
  totalSocketsCreated := by
    simp only [AggregatedMetrics.receive, recordCommon]
    split_ifs <;> rfl
  totalConnectionsReused := by
    simp only [AggregatedMetrics.receive, recordCommon]
    split_ifs <;> rfl
  dnsResolutionSumUs := Nat.add_right_comm _ _ _
  dnsResolutionCount := by
    simp only [AggregatedMetrics.receive, recordCommon]
    split_ifs <;> rfl

end Alike

theorem commuting : Commuting receive Alike where
  refl := Alike.refl
  trans := Alike.trans
  kept := fun metric alike => alike.receive metric
  swapped := Alike.swapped

end AggregatedMetrics

/-- Equal up to the timeline, the current congestion window, the size of the pool, and the
order of recorded values and table entries. -/
structure FinalizedMetrics.Alike (first second : FinalizedMetrics) : Prop where
  common : first.toAggregatedMetrics.Alike second.toAggregatedMetrics
  quicMetrics : first.quicMetrics = second.quicMetrics
  sseMetrics : first.sseMetrics = second.sseMetrics
  wsMetrics : first.wsMetrics = second.wsMetrics
  grpcMetrics : first.grpcMetrics = second.grpcMetrics
  http3Metrics :
    first.http3Metrics.map withoutCurrent =
      second.http3Metrics.map withoutCurrent
  graphqlMetrics : first.graphqlMetrics = second.graphqlMetrics
  graphqlWsMetrics : first.graphqlWsMetrics = second.graphqlWsMetrics
  soapMetrics : first.soapMetrics = second.soapMetrics
  stompMetrics : first.stompMetrics = second.stompMetrics
  dbMetrics :
    first.dbMetrics.map withoutPoolSize =
      second.dbMetrics.map withoutPoolSize

section Rounds

variable {firstRounds secondRounds : List Round} {firstStart secondStart : Aggregation}

theorem accumulator_perm
    (hdr : HdrStatistics) {Sample Accumulator : Type} {part : ProtocolAccumulators → Accumulator}
    {pick : ProtocolSample → Option Sample} {record : Accumulator → Sample → Accumulator}
    {Related : Accumulator → Accumulator → Prop} (commuting : Commuting record Related)
    (recorded :
      ∀ accumulators protocol,
        part (ProtocolAccumulators.record accumulators protocol) =
          (protocol.bind pick).elim (part accumulators) (record (part accumulators)))
    (same : part firstStart.protocols = part secondStart.protocols)
    (perm : (firstRounds.map Round.metric).Perm (secondRounds.map Round.metric)) :
    Related
      (part (firstRounds.foldl (Aggregation.receive hdr) firstStart).protocols)
      (part (secondRounds.foldl (Aggregation.receive hdr) secondStart).protocols) := by
  rw [accumulator_foldl_receive recorded, accumulator_foldl_receive recorded, same]
  exact commuting.foldl_perm (perm.filterMap _) (part secondStart.protocols)

/-- All accumulators agree, up to what their sections do not show. -/
structure ProtocolAccumulators.Alike (first second : ProtocolAccumulators) : Prop where
  quic : first.quic = second.quic
  sse : first.sse = second.sse
  ws : first.ws = second.ws
  grpc : first.grpc = second.grpc
  http3 : first.http3.Alike second.http3
  graphql : first.graphql = second.graphql
  graphqlWs : first.graphqlWs.Alike second.graphqlWs
  soap : first.soap = second.soap
  stomp : first.stomp.Alike second.stomp
  db : first.db.Alike second.db

theorem protocols_perm
    (hdr : HdrStatistics) (firstInterval secondInterval : Nat)
    (firstStarted secondStarted : Nat → Nat)
    (perm : (firstRounds.map Round.metric).Perm (secondRounds.map Round.metric)) :
    ProtocolAccumulators.Alike
      (firstRounds.foldl (Aggregation.receive hdr) (.new firstInterval firstStarted)).protocols
      (secondRounds.foldl (Aggregation.receive hdr)
        (.new secondInterval secondStarted)).protocols where
  quic :=
    accumulator_perm hdr commuting_quic
      (fun before protocol => congrArg (·.quic) (before.record_eq protocol)) rfl perm
  sse :=
    accumulator_perm hdr commuting_sse
      (fun before protocol => congrArg (·.sse) (before.record_eq protocol)) rfl perm
  ws :=
    accumulator_perm hdr commuting_ws
      (fun before protocol => congrArg (·.ws) (before.record_eq protocol)) rfl perm
  grpc :=
    accumulator_perm hdr commuting_grpc
      (fun before protocol => congrArg (·.grpc) (before.record_eq protocol)) rfl perm
  http3 :=
    accumulator_perm hdr Http3Accumulator.commuting
      (fun before protocol => congrArg (·.http3) (before.record_eq protocol)) rfl perm
  graphql :=
    accumulator_perm hdr commuting_graphql
      (fun before protocol => congrArg (·.graphql) (before.record_eq protocol)) rfl perm
  graphqlWs :=
    accumulator_perm hdr GraphqlWsAccumulator.commuting
      (fun before protocol => congrArg (·.graphqlWs) (before.record_eq protocol)) rfl perm
  soap :=
    accumulator_perm hdr commuting_soap
      (fun before protocol => congrArg (·.soap) (before.record_eq protocol)) rfl perm
  stomp :=
    accumulator_perm hdr StompAccumulator.commuting
      (fun before protocol => congrArg (·.stomp) (before.record_eq protocol)) rfl perm
  db :=
    accumulator_perm hdr DbAccumulator.commuting
      (fun before protocol => congrArg (·.db) (before.record_eq protocol)) rfl perm

end Rounds

/-- Metrics that arrive in another order, at other times, and with another timeline
interval, are aggregated to the same result. -/
theorem finalizeMetrics_perm {hdr : HdrStatistics} (orderFree : hdr.OrderFree)
    {firstRounds secondRounds : List Round}
    (perm : (firstRounds.map Round.metric).Perm (secondRounds.map Round.metric))
    (firstInterval secondInterval : Nat)
    (firstStarted secondStarted firstEnded secondEnded : Nat → Nat) :
    (finalizeMetrics hdr firstInterval firstStarted firstRounds firstEnded).Alike
      (finalizeMetrics hdr secondInterval secondStarted secondRounds secondEnded) := by
  let first := firstRounds.foldl (Aggregation.receive hdr) (.new firstInterval firstStarted)
  let second :=
    secondRounds.foldl (Aggregation.receive hdr) (.new secondInterval secondStarted)
  have common : first.metrics.Alike second.metrics := by
    rw [metrics_foldl_receive, metrics_foldl_receive]
    exact AggregatedMetrics.commuting.foldl_perm perm {}
  have protocols : first.protocols.Alike second.protocols :=
    protocols_perm hdr firstInterval secondInterval firstStarted secondStarted perm
  exact
    { common
      quicMetrics := congrArg QuicAccumulator.finish protocols.quic
      sseMetrics := congrArg SseAccumulator.finish protocols.sse
      wsMetrics := congrArg WsAccumulator.finish protocols.ws
      grpcMetrics := congrArg GrpcAccumulator.finish protocols.grpc
      http3Metrics := protocols.http3.finish
      graphqlMetrics := congrArg GraphqlAccumulator.finish protocols.graphql
      graphqlWsMetrics := protocols.graphqlWs.finish orderFree
      soapMetrics := congrArg SoapAccumulator.finish protocols.soap
      stompMetrics := protocols.stomp.finish orderFree
      dbMetrics := protocols.db.finish orderFree }

/-- Quantiles by rank among the sorted values, and the arithmetic mean. -/
def HdrStatistics.ranked : HdrStatistics :=
  { HdrStatistics.sample with
    valueAtQuantile := fun histogram quantile =>
      (histogram.insertionSort (· ≤ ·)).getD
        ((quantile * histogram.length).ceil.toNat - 1) 0
    mean := fun histogram => (histogram.sum : ℚ) / histogram.length }

theorem orderFree_ranked : HdrStatistics.ranked.OrderFree where
  valueAtQuantile := by
    intro first second perm
    have same : (first.insertionSort (· ≤ ·)).Perm (second.insertionSort (· ≤ ·)) :=
      ((List.perm_insertionSort _ _).trans perm).trans (List.perm_insertionSort _ _).symm
    have sorted : first.insertionSort (· ≤ ·) = second.insertionSort (· ≤ ·) :=
      same.eq_of_sortedLE List.sortedLE_insertionSort List.sortedLE_insertionSort
    funext quantile
    simp only [HdrStatistics.ranked, sorted, perm.length_eq]
  mean := by
    intro first second perm
    simp only [HdrStatistics.ranked, perm.sum_eq, perm.length_eq]

private def mixedRounds : List Round :=
  [⟨{ latencyMicros := 40, statusCode := 200
      protocol := some (.http3 (some { cwndBytes := 1200 }) (some { handshakeUs := some 9 })) },
      1⟩,
    ⟨{ latencyMicros := 10, statusCode := 200
       protocol := some (.http3 (some { cwndBytes := 2400 }) none) }, 2⟩,
    ⟨{ latencyMicros := 30, statusCode := 1
       protocol := some (.db { rows := 3, queryUs := some 30, poolSize := 4 }) }, 3⟩,
    ⟨{ latencyMicros := 20, statusCode := 0, chaosFault := some .connectionDrop
       protocol := some (.db { errors := 1, queryUs := some 20, poolSize := 5 }) }, 4⟩,
    ⟨{ latencyMicros := 50, statusCode := 1
       protocol := some (.stomp { messagesSent := 1, sendLatencyUs := some 50 }) }, 5⟩]

/-- Received backwards, the metrics end in the same sections up to the current congestion
window and the size of the pool, which do differ. -/
theorem finalizeMetrics_perm_sample :
    let forwards := finalizeMetrics .ranked 0 0 mixedRounds 6
    let backwards := finalizeMetrics .ranked 0 0 mixedRounds.reverse 6
    forwards.Alike backwards ∧ forwards.http3Metrics.map Http3Metrics.cwndBytesCurrent = some 2400 ∧
      backwards.http3Metrics.map Http3Metrics.cwndBytesCurrent = some 1200 ∧
      forwards.dbMetrics.map DatabaseMetrics.poolSize = some 5 ∧
      backwards.dbMetrics.map DatabaseMetrics.poolSize = some 4 := by
  refine ⟨?_, by decide +kernel, by decide +kernel, by decide +kernel, by decide +kernel⟩
  apply finalizeMetrics_perm orderFree_ranked
  rw [List.map_reverse]
  exact (List.reverse_perm _).symm

end Strobengine.Metrics
