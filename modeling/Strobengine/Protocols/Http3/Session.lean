import Strobengine.Foundations.Emission
import Strobengine.Metrics.Sections

/-!
# HTTP/3 iterations

A worker whose context cannot be created runs stateless iterations, each on a connection of its own.
A persistent iteration sends its request on the connection of the session; if that fails, it opens
another one and tries again. One await of the model stands for all awaits of a request.
-/

namespace Strobengine.Protocols.Http3

open Foundations Metrics

structure Http3Engine where
  zeroRtt : Bool
  migrate : Bool
  migrateEvery : Nat
  /-- The deadline of an iteration and of the creation of the context, in microseconds. -/
  timeoutMicros : Nat

inductive Handshake where
  | oneRtt
  | zeroRtt (accepted : Bool)
  deriving DecidableEq, Repr

namespace Handshake

def zeroRttAccepted : Handshake → Option Bool
  | oneRtt => none
  | zeroRtt accepted => some accepted

def isZeroRtt : Handshake → Bool
  | oneRtt => false
  | zeroRtt _ => true

def accepted : Handshake → Bool
  | oneRtt => false
  | zeroRtt accepted => accepted

end Handshake

structure Http3Session where
  zeroRttAccepted : Option Bool
  prevLostPackets : Nat := 0
  iterations : Nat := 0
  deriving DecidableEq, Repr

structure Iteration where
  reqStart : Nat
  fault : Option ChaosFault
  deriving DecidableEq, Repr

structure Connected where
  connectionLatencyUs : Nat
  dnsUs : Nat
  handshake : Handshake
  deriving DecidableEq, Repr

inductive StatelessAwait where
  | sleep
  | connect (connectStart : Nat)
  | setup (connected : Connected)
  | request (connected : Connected)
  deriving DecidableEq, Repr

structure Outcome where
  migAtt : Bool
  isReconnect : Bool := false
  handshakeUs : Option Nat := none
  usedZeroRtt : Bool := false
  deriving DecidableEq, Repr

inductive SessionAwait where
  | sleep
  | request (outcome : Outcome)
  | connect (outcome : Outcome) (connectStart : Nat)
  | setup (outcome : Outcome) (handshake : Handshake)
  | again (outcome : Outcome) (handshake : Handshake)
  deriving DecidableEq, Repr

inductive Worker where
  | creating (handshake : Option Handshake)
  | stateless (iteration : Option (Iteration × StatelessAwait))
  | persistent (session : Http3Session) (iteration : Option (Iteration × SessionAwait))
  | ended
  deriving DecidableEq, Repr

inductive Event where
  | begin (fault : Option ChaosFault)
  | woke
  | connected (dnsUs : Nat) (handshake : Handshake)
  | connectFailed
  | ready
  | setupFailed
  | answered (status bytes : Nat)
  | requestFailed
  | deadline
  | cancelled
  deriving DecidableEq, Repr

structure Action where
  now : Nat
  rebound : Bool
  cwnd : Nat
  lostPackets : Nat
  event : Event
  deriving DecidableEq, Repr

inductive Seen where
  | opened (handshake : Handshake)
  | returned (metric : RequestMetric)
  deriving DecidableEq, Repr

def Iteration.failed (iteration : Iteration) (action : Action) : RequestMetric :=
  RequestMetric.error (action.now - iteration.reqStart) iteration.fault

def Http3Engine.connects (engine : Http3Engine) (handshake : Handshake) : Bool :=
  engine.zeroRtt || !handshake.isZeroRtt

namespace Iteration

section Stateless

variable (iteration : Iteration) (action : Action)

def suspendStateless (await : StatelessAwait) : Worker × List Seen :=
  (.stateless (some (iteration, await)), [])

def finishStateless (metric : RequestMetric) : Worker × List Seen :=
  (.stateless none, [.returned metric])

def startStateless : Worker × List Seen :=
  match iteration.fault with
  | some .connectionDrop => finishStateless (iteration.failed action)
  | some (.latencySpike _) => iteration.suspendStateless .sleep
  | _ => iteration.suspendStateless (.connect action.now)

/-- The metric of a request, also of one that has failed; it says whether 0-RTT was
attempted. -/
def statelessMetric (connected : Connected) (status bytes : Nat) : RequestMetric :=
  { latencyMicros := action.now - iteration.reqStart
    chaosFault := iteration.fault
    statusCode := status
    bytesReceived := bytes
    connection :=
      { connectionLatencyUs := some connected.connectionLatencyUs
        dnsResolutionUs := some connected.dnsUs }
    protocol :=
      some
        (.http3 (some { cwndBytes := action.cwnd })
          (some
            { handshakeUs := some connected.connectionLatencyUs
              usedZeroRtt := connected.handshake.isZeroRtt
              retransmits := some action.lostPackets })) }

def resumeStateless (engine : Http3Engine) : StatelessAwait → Event → Option (Worker × List Seen)
  | .sleep, .woke => some (iteration.suspendStateless (.connect action.now))
  | .connect connectStart, .connected dnsUs handshake =>
    if engine.connects handshake then
      some
        (.stateless
          (some (iteration, .setup ⟨action.now - connectStart, dnsUs, handshake⟩)),
          [.opened handshake])
    else
      none
  | .connect _, .connectFailed | .setup _, .setupFailed =>
    some (finishStateless (iteration.failed action))
  | .setup connected, .ready => some (iteration.suspendStateless (.request connected))
  | .request connected, .answered status bytes =>
    some (finishStateless (iteration.statelessMetric action connected status bytes))
  | .request connected, .requestFailed =>
    some (finishStateless (iteration.statelessMetric action connected 0 0))
  | _, .deadline => some (finishStateless (RequestMetric.error engine.timeoutMicros none))
  | _, .cancelled => some (.ended, [])
  | _, _ => none

end Stateless

end Iteration

namespace Http3Session

def new (handshake : Handshake) : Http3Session :=
  { zeroRttAccepted := handshake.zeroRttAccepted }

section Persistent

variable (session : Http3Session) (iteration : Iteration) (action : Action)

def suspend (await : SessionAwait) : Worker × List Seen :=
  (.persistent session (some (iteration, await)), [])

def finish (metric : RequestMetric) : Worker × List Seen :=
  (.persistent session none, [.returned metric])

def enter (engine : Http3Engine) : Worker × List Seen :=
  let iterations := session.iterations + 1
  suspend { session with iterations } iteration
    (.request { migAtt :=
          engine.migrate && decide (iterations % engine.migrateEvery = 0) && action.rebound })

def start (engine : Http3Engine) : Worker × List Seen :=
  match iteration.fault with
  | some .connectionDrop => session.finish (iteration.failed action)
  | some (.latencySpike _) => session.suspend iteration .sleep
  | _ => session.enter iteration action engine

def accepted : Bool :=
  session.zeroRttAccepted.getD false

def reportsZeroRtt (outcome : Outcome) : Bool :=
  outcome.usedZeroRtt || session.accepted

def metric (outcome : Outcome) (status bytes : Nat) : RequestMetric :=
  { latencyMicros := action.now - iteration.reqStart
    chaosFault := iteration.fault
    statusCode := status
    bytesReceived := bytes
    isReconnect := outcome.isReconnect
    connection := { isSocketReused := !outcome.isReconnect }
    protocol :=
      some
        (.http3
          (some
            { cwndBytes := action.cwnd
              migrationsAttempted := outcome.migAtt.toNat
              migrationsSuccessful :=
                (outcome.migAtt && !outcome.isReconnect && decide (status ≠ 0)).toNat })
          (some
            { handshakeUs := outcome.handshakeUs
              usedZeroRtt := session.reportsZeroRtt outcome
              retransmits := some (action.lostPackets - session.prevLostPackets) })) }

def complete (outcome : Outcome) (status bytes : Nat) : Worker × List Seen :=
  finish { session with prevLostPackets := action.lostPackets }
    (session.metric iteration action outcome status bytes)

def replace (handshake : Handshake) : Http3Session :=
  { session with zeroRttAccepted := handshake.zeroRttAccepted, prevLostPackets := 0 }

def resume (engine : Http3Engine) : SessionAwait → Event → Option (Worker × List Seen)
  | .sleep, .woke => some (session.enter iteration action engine)
  | .request outcome, .answered status bytes =>
    some (session.complete iteration action outcome status bytes)
  | .request outcome, .requestFailed =>
    some (session.suspend iteration (.connect outcome action.now))
  | .connect outcome connectStart, .connected _ handshake =>
    if engine.connects handshake then
      some
        (.persistent session
          (some
            (iteration,
              .setup
                { outcome with
                  handshakeUs := some (action.now - connectStart)
                  usedZeroRtt := handshake.isZeroRtt }
                handshake)),
          [.opened handshake])
    else
      none
  | .connect outcome _, .connectFailed | .setup outcome _, .setupFailed =>
    some (session.complete iteration action outcome 0 0)
  | .setup outcome handshake, .ready =>
    some
      ((session.replace handshake).suspend iteration
        (.again { outcome with isReconnect := true } handshake))
  | .again outcome _, .answered status bytes =>
    some (session.complete iteration action outcome status bytes)
  | .again outcome _, .requestFailed => some (session.complete iteration action outcome 0 0)
  | _, .deadline => some (session.finish (RequestMetric.error engine.timeoutMicros none))
  | _, .cancelled => some (.ended, [])
  | _, _ => none

end Persistent

end Http3Session

namespace Worker

def new : Worker :=
  .creating none

def create (engine : Http3Engine) : Option Handshake → Event → Option (Worker × List Seen)
  | none, .connected _ handshake =>
    if engine.connects handshake then
      some (.creating (some handshake), [.opened handshake])
    else
      none
  | some handshake, .ready => some (.persistent (.new handshake) none, [])
  | none, .connectFailed | some _, .setupFailed | _, .deadline => some (.stateless none, [])
  | _, _ => none

def step (engine : Http3Engine) : Emitting Worker Action Seen
  | .creating handshake, action => create engine handshake action.event
  | .stateless none, action =>
    match action.event with
    | .begin fault => some (Iteration.startStateless ⟨action.now, fault⟩ action)
    | .cancelled => some (.ended, [])
    | _ => none
  | .stateless (some (iteration, await)), action =>
    iteration.resumeStateless action engine await action.event
  | .persistent session none, action =>
    match action.event with
    | .begin fault => some (session.start ⟨action.now, fault⟩ action engine)
    | .cancelled => some (.ended, [])
    | _ => none
  | .persistent session (some (iteration, await)), action =>
    session.resume iteration action engine await action.event
  | .ended, _ => none

end Worker

end Strobengine.Protocols.Http3
