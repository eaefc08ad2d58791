import Strobengine.Foundations.Emission
import Strobengine.Metrics.Request
import Strobengine.Protocols.Sse.Parser
import Strobengine.Rust.Bytes

/-!
# Iterations over event streams

Without a session each iteration opens its own stream and ends with the first chunk that completes
an event; a persistent session keeps its stream and its buffer. Every await point is a state in
which the iteration is suspended, and no time passes between two of them.
-/

namespace Strobengine.Protocols.Sse

open Foundations Metrics Rust

structure SseEngine where
  maxEvents : Option Nat
  timeoutMicros : Nat

/-- Worker-local session; of the stream only whether there is one, since what arrives on it
is said by the actions. -/
structure SseSession where
  stream : Bool
  statusCode : Nat
  eventsReceived : Nat
  firstEventTime : Option Nat
  lastEventTime : Option Nat
  buffer : String
  maxEvents : Option Nat
  deriving DecidableEq, Repr

inductive StatelessIteration where
  | sleeping (reqStart : Nat) (fault : Option ChaosFault)
  | connecting (reqStart : Nat) (fault : Option ChaosFault)
  | reading (reqStart : Nat) (fault : Option ChaosFault) (statusCode totalBytes : Nat)
      (buffer : String)
  deriving DecidableEq, Repr

inductive SessionIteration where
  | sleeping (iterationStart reqStart : Nat) (fault : Option ChaosFault)
  | connecting (iterationStart reqStart : Nat) (fault : Option ChaosFault)
  | reading (iterationStart reqStart : Nat) (wasConnected : Bool)
      (fault : Option ChaosFault) (totalBytes : Nat)
  deriving DecidableEq, Repr

/-- A worker with or without a session, between two iterations or in one. -/
inductive Worker where
  | stateless (iteration : Option StatelessIteration)
  | persistent (session : SseSession) (iteration : Option SessionIteration)
  | ended
  deriving DecidableEq, Repr

inductive WorkerEvent where
  | begin (fault : Option ChaosFault)
  | woke
  | connected (statusCode : Nat)
  | connectFailed
  | chunk (bytes : List UInt8)
  | readFailed
  | streamEnded
  | deadline
  | cancelled
  deriving DecidableEq, Repr

structure WorkerAction where
  now : Nat
  event : WorkerEvent
  deriving DecidableEq, Repr

inductive Output where
  | parsed (event : SseEvent)
  | returned (metric : RequestMetric)
  deriving DecidableEq, Repr

def sseMetric (latencyMicros : Nat) (fault : Option ChaosFault) (statusCode bytes : Nat)
    (reused : Bool) (sample : SseSample) : RequestMetric :=
  { latencyMicros
    chaosFault := fault
    statusCode
    bytesReceived := bytes
    connection := { isSocketReused := reused }
    protocol := some (.sse sample) }

namespace StatelessIteration

def finish (metric : RequestMetric) : Worker × List Output :=
  (.stateless none, [.returned metric])

def suspend (iteration : StatelessIteration) : Worker × List Output :=
  (.stateless (some iteration), [])

def start (now : Nat) (fault : Option ChaosFault) : Worker × List Output :=
  match fault with
  | some .connectionDrop => finish (RequestMetric.error 0 fault)
  | some (.latencySpike _) => suspend (.sleeping now fault)
  | _ => suspend (.connecting now fault)

def connected (now reqStart : Nat) (fault : Option ChaosFault) (statusCode : Nat) :
    Worker × List Output :=
  if 400 ≤ statusCode ∧ statusCode < 600 then
    finish
      (sseMetric (now - reqStart) fault statusCode 0 false { eventsReceived := some 0 })
  else
    suspend (.reading reqStart fault statusCode 0 "")

def readChunk (now reqStart : Nat) (fault : Option ChaosFault) (statusCode totalBytes : Nat)
    (buffer : String) (bytes : List UInt8) : Worker × List Output :=
  let total := totalBytes + bytes.length
  let parsed := parseSseChunk buffer (fromUtf8Lossy bytes)
  if parsed.1.isEmpty then
    suspend (.reading reqStart fault statusCode total parsed.2)
  else
    (.stateless none,
      parsed.1.map Output.parsed ++
        [.returned
          (sseMetric (now - reqStart) fault statusCode total false
            { eventsReceived := some parsed.1.length
              firstEventUs := some (now - reqStart) })])

def streamEnded (now reqStart : Nat) (fault : Option ChaosFault) (statusCode totalBytes : Nat) :
    Worker × List Output :=
  finish
    (sseMetric (now - reqStart) fault statusCode totalBytes false { eventsReceived := some 0 })

end StatelessIteration

namespace SseSession

def new (maxEvents : Option Nat) : SseSession :=
  { stream := false
    statusCode := 0
    eventsReceived := 0
    firstEventTime := none
    lastEventTime := none
    buffer := ""
    maxEvents }

def isMaxReached (session : SseSession) : Bool :=
  session.maxEvents.any (fun max => decide (max ≤ session.eventsReceived))

def finish (session : SseSession) (metric : RequestMetric) : Worker × List Output :=
  (.persistent session none, [.returned metric])

def suspend (session : SseSession) (iteration : SessionIteration) : Worker × List Output :=
  (.persistent session (some iteration), [])

def start (session : SseSession) (now : Nat) (fault : Option ChaosFault) : Worker × List Output :=
  if session.isMaxReached then
    session.finish
      (sseMetric 0 none session.statusCode 0 session.stream
        { eventsReceived := some session.eventsReceived })
  else if session.stream then
    session.suspend (.reading now now true none 0)
  else
    match fault with
    | some .connectionDrop => session.finish (RequestMetric.error 0 fault)
    | some (.latencySpike _) => session.suspend (.sleeping now now fault)
    | _ => session.suspend (.connecting now now fault)

def connected (session : SseSession) (now iterationStart : Nat) (fault : Option ChaosFault)
    (statusCode : Nat) : Worker × List Output :=
  suspend
    { session with
      statusCode
      eventsReceived := 0
      firstEventTime := none
      stream := true }
    (.reading iterationStart now false fault 0)

def readChunk (session : SseSession) (now iterationStart reqStart : Nat) (wasConnected : Bool)
    (fault : Option ChaosFault) (totalBytes : Nat) (bytes : List UInt8) :
    Worker × List Output :=
  let total := totalBytes + bytes.length
  let parsed := parseSseChunk session.buffer (fromUtf8Lossy bytes)
  if parsed.1.isEmpty then
    suspend { session with buffer := parsed.2 }
      (.reading iterationStart reqStart wasConnected fault total)
  else
    let counted :=
      { session with
        buffer := parsed.2
        eventsReceived := session.eventsReceived + 1
        firstEventTime := some (session.firstEventTime.getD now)
        lastEventTime := some now }
    (.persistent counted none,
      parsed.1.map Output.parsed ++
        [.returned
          (sseMetric (now - reqStart) fault session.statusCode total wasConnected
            { eventsReceived := some counted.eventsReceived
              firstEventUs :=
                if session.firstEventTime.isNone then some (now - iterationStart) else none
              eventIntervalUs := session.lastEventTime.map (now - ·) })])

def dropStream (session : SseSession) : SseSession :=
  { session with stream := false, buffer := "" }

def streamEnded (session : SseSession) (now reqStart : Nat) (wasConnected : Bool)
    (fault : Option ChaosFault) (totalBytes : Nat) : Worker × List Output :=
  session.dropStream.finish
    (sseMetric (now - reqStart) fault session.statusCode totalBytes wasConnected
      { eventsReceived := some session.eventsReceived })

end SseSession

namespace Worker

def new (engine : SseEngine) (withSession : Bool) : Worker :=
  if withSession then .persistent (SseSession.new engine.maxEvents) none
  else .stateless none

def stepStateless (engine : SseEngine) (now : Nat) :
    Option StatelessIteration → WorkerEvent → Option (Worker × List Output)
  | none, .begin fault => some (StatelessIteration.start now fault)
  | some (.sleeping reqStart fault), .woke =>
    some (StatelessIteration.suspend (.connecting reqStart fault))
  | some (.connecting reqStart fault), .connected statusCode =>
    some (StatelessIteration.connected now reqStart fault statusCode)
  | some (.connecting reqStart fault), .connectFailed =>
    some (StatelessIteration.finish (RequestMetric.error (now - reqStart) fault))
  | some (.reading reqStart fault statusCode totalBytes buffer), .chunk bytes =>
    some
      (StatelessIteration.readChunk now reqStart fault statusCode totalBytes buffer bytes)
  | some (.reading reqStart fault _ _ _), .readFailed =>
    some (StatelessIteration.finish (RequestMetric.error (now - reqStart) fault))
  | some (.reading reqStart fault statusCode totalBytes _), .streamEnded =>
    some (StatelessIteration.streamEnded now reqStart fault statusCode totalBytes)
  | some _, .deadline =>
    some (StatelessIteration.finish (RequestMetric.error engine.timeoutMicros none))
  | _, .cancelled => some (.ended, [])
  | _, _ => none

def stepPersistent (engine : SseEngine) (now : Nat) (session : SseSession) :
    Option SessionIteration → WorkerEvent → Option (Worker × List Output)
  | none, .begin fault => some (session.start now fault)
  | some (.sleeping iterationStart reqStart fault), .woke =>
    some (session.suspend (.connecting iterationStart reqStart fault))
  | some (.connecting iterationStart _ fault), .connected statusCode =>
    some (session.connected now iterationStart fault statusCode)
  | some (.connecting _ reqStart fault), .connectFailed =>
    some (session.finish (RequestMetric.error (now - reqStart) fault))
  | some (.reading iterationStart reqStart wasConnected fault totalBytes), .chunk bytes =>
    some
      (session.readChunk now iterationStart reqStart wasConnected fault totalBytes bytes)
  | some (.reading _ reqStart _ fault _), .readFailed =>
    some (session.dropStream.finish (RequestMetric.error (now - reqStart) fault))
  | some (.reading _ reqStart wasConnected fault totalBytes), .streamEnded =>
    some (session.streamEnded now reqStart wasConnected fault totalBytes)
  -- the session keeps its stream and what is in the buffer
  | some _, .deadline => some (session.finish (RequestMetric.error engine.timeoutMicros none))
  | _, .cancelled => some (.ended, [])
  | _, _ => none

def step (engine : SseEngine) : Emitting Worker WorkerAction Output
  | .stateless iteration, action => stepStateless engine action.now iteration action.event
  | .persistent session iteration, action =>
    stepPersistent engine action.now session iteration action.event
  | .ended, _ => none

end Worker

/-- The bytes of `data:a` and a blank line. -/
def oneEvent : List UInt8 :=
  [100, 97, 116, 97, 58, 97, 10, 10]

end Strobengine.Protocols.Sse
