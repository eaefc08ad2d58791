import Strobengine.Foundations.Emission
import Strobengine.Metrics.Protocols
import Strobengine.Rust.Bytes

/-!
# Persistent WebSocket sessions

An iteration on a persistent session sends one text message and waits for one data frame. The
session keeps its connection until a message budget is spent or the connection fails; a read that
times out fails the iteration and keeps the connection. The server answers every text message with
exactly one data frame, in order, whenever it likes.
-/

namespace Strobengine.Protocols.Websocket

open Foundations Metrics Rust

structure Question where
  iteration : Nat
  text : String
  deriving DecidableEq, Repr

structure Reply where
  question : Question
  content : List UInt8
  deriving DecidableEq, Repr

structure Connection where
  unanswered : List Question := []
  arriving : List Reply := []
  deriving DecidableEq, Repr

namespace Connection

def accept (connection : Connection) (question : Question) : Connection :=
  { connection with unanswered := connection.unanswered ++ [question] }

def answer (connection : Connection) (content : List UInt8) : Option Connection :=
  match connection.unanswered with
  | [] => none
  | question :: rest =>
    some
      { unanswered := rest
        arriving := connection.arriving ++ [⟨question, content⟩] }

def read (connection : Connection) : Option (Reply × Connection) :=
  match connection.arriving with
  | [] => none
  | reply :: rest => some (reply, { connection with arriving := rest })

end Connection

structure WebSocketEngine where
  payload : Option String
  wsMaxMessages : Option Nat
  timeoutMicros : Nat

def WebSocketEngine.payloadText (engine : WebSocketEngine) (fault : Option ChaosFault) : String :=
  match fault with
  | some .corruptedPayload => fromUtf8Lossy [0xff, 0xfe, 0xbd, 0xef]
  | _ => engine.payload.getD "ping"

structure PersistentWsSession where
  stream : Option Connection := none
  messagesSent : Nat := 0
  maxMessages : Option Nat
  lastPingsReceived : Nat := 0
  lastPongsReceived : Nat := 0
  deriving DecidableEq, Repr

structure Iteration where
  number : Nat
  reqStart : Nat
  fault : Option ChaosFault
  deriving DecidableEq, Repr

/-- Where an iteration is suspended: in sending it first waits for room in the write buffer
and then for the flush. -/
inductive Await where
  | sleep
  | connect (start : Nat)
  | ready (connectionLatencyUs : Nat)
  | flush (connectionLatencyUs : Nat)
  | read (connectionLatencyUs pings pongs : Nat)
  deriving DecidableEq, Repr

inductive Output where
  | returned (iteration : Nat) (response : Option Reply) (metric : RequestMetric)
  deriving DecidableEq, Repr

structure Turn where
  session : PersistentWsSession
  suspended : Option (Iteration × Await)
  emitted : List Output
  deriving DecidableEq, Repr

def wsSample (pingsSent pingsReceived pongsSolicited pongsUnsolicited : Nat) : Option WsSample :=
  let sample : WsSample :=
    { pingsSent
      pingsReceived
      pongsSolicited
      pongsUnsolicited }
  if sample.isSignificant then some sample else none

namespace PersistentWsSession

def isMaxReached (session : PersistentWsSession) : Bool :=
  session.maxMessages.any (fun max => decide (max ≤ session.messagesSent))

section Iterating

variable (session : PersistentWsSession) (iteration : Iteration) (now : Nat)

def suspend (await : Await) : Turn :=
  { session, suspended := some (iteration, await), emitted := [] }

def metric (connectionLatencyUs statusCode bytes : Nat) : RequestMetric :=
  { latencyMicros := now - iteration.reqStart
    chaosFault := iteration.fault
    statusCode
    bytesReceived := bytes
    isReconnect := 0 < connectionLatencyUs
    connection :=
      { connectionLatencyUs := some connectionLatencyUs
        isSocketReused := connectionLatencyUs == 0 }
    protocol :=
      (wsSample 0 session.lastPingsReceived 0 session.lastPongsReceived).map
        ProtocolSample.ws }

def finish (response : Option Reply) (metric : RequestMetric) : Turn :=
  { session
    suspended := none
    emitted := [.returned iteration.number response metric] }

def fail (connectionLatencyUs : Nat) : Turn :=
  session.finish iteration none (session.metric iteration now connectionLatencyUs 0 0)

def sendAndReceive (connectionLatencyUs : Nat) : Turn :=
  match session.stream with
  | none => session.fail iteration now connectionLatencyUs
  | some _ => session.suspend iteration (.ready connectionLatencyUs)

def ensureConnected : Turn :=
  if session.stream.isSome && !session.isMaxReached then
    session.sendAndReceive iteration now 0
  else
    session.suspend iteration (.connect now)

def start : Turn :=
  match iteration.fault with
  | some .connectionDrop =>
    session.finish iteration none
      (RequestMetric.error (now - iteration.reqStart) iteration.fault)
  | some (.latencySpike _) => session.suspend iteration .sleep
  | _ => session.ensureConnected iteration now

def connected (start : Nat) : Turn :=
  sendAndReceive { session with stream := some {}, messagesSent := 0 } iteration now
    (now - start)

def accepted (engine : WebSocketEngine) (connectionLatencyUs : Nat)
    (connection : Connection) : Turn :=
  let question : Question := ⟨iteration.number, engine.payloadText iteration.fault⟩
  suspend { session with stream := some (connection.accept question) } iteration
    (.flush connectionLatencyUs)

def flushed (connectionLatencyUs : Nat) : Turn :=
  suspend
    { session with
      messagesSent := session.messagesSent + 1
      lastPingsReceived := 0
      lastPongsReceived := 0 }
    iteration (.read connectionLatencyUs 0 0)

def sendFailed (connectionLatencyUs : Nat) : Turn :=
  fail { session with stream := none } iteration now connectionLatencyUs

def received (connectionLatencyUs pings pongs : Nat) (reply : Reply)
    (connection : Connection) : Turn :=
  let heard :=
    { session with
      stream := some connection
      lastPingsReceived := pings
      lastPongsReceived := pongs }
  heard.finish iteration (some reply)
    (heard.metric iteration now connectionLatencyUs 200 reply.content.length)

def terminated (connectionLatencyUs pings pongs : Nat) : Turn :=
  fail
    { session with
      stream := none
      lastPingsReceived := pings
      lastPongsReceived := pongs }
    iteration now connectionLatencyUs

end Iterating

end PersistentWsSession

/-! ## The worker and the server -/

/-- A worker with its session, and the number of iterations that it has begun. -/
structure Worker where
  session : PersistentWsSession
  suspended : Option (Iteration × Await)
  iterations : Nat
  running : Bool
  deriving DecidableEq, Repr

inductive Event where
  | begin (fault : Option ChaosFault)
  | woke
  | connected
  | connectFailed
  | accepted
  | flushed
  | sendFailed
  | data
  | ping
  | pong
  | terminated
  | timedOut
  | deadline
  | cancelled
  | answer (content : List UInt8)
  deriving DecidableEq, Repr

structure Action where
  now : Nat
  event : Event
  deriving DecidableEq, Repr

namespace Worker

def new (engine : WebSocketEngine) : Worker :=
  { session := { maxMessages := engine.wsMaxMessages }
    suspended := none
    iterations := 0
    running := true }

def resume (engine : WebSocketEngine) (session : PersistentWsSession) (iteration : Iteration)
    (now : Nat) : Await → Event → Option Turn
  | .sleep, .woke => some (session.ensureConnected iteration now)
  | .connect start, .connected => some (session.connected iteration now start)
  | .connect _, .connectFailed =>
    some (session.finish iteration none (RequestMetric.error 0 iteration.fault))
  | .ready latency, .accepted => session.stream.map (session.accepted iteration engine latency)
  | .ready latency, .sendFailed => some (session.sendFailed iteration now latency)
  | .flush latency, .flushed => some (session.flushed iteration latency)
  | .flush latency, .sendFailed => some (session.sendFailed iteration now latency)
  | .read latency pings pongs, .data =>
    (session.stream.bind Connection.read).map (fun (reply, connection) =>
      session.received iteration now latency pings pongs reply connection)
  | .read latency pings pongs, .ping =>
    some (session.suspend iteration (.read latency (pings + 1) pongs))
  | .read latency pings pongs, .pong =>
    some (session.suspend iteration (.read latency pings (pongs + 1)))
  | .read latency pings pongs, .terminated =>
    some (session.terminated iteration now latency pings pongs)
  -- the session keeps its connection
  | .read latency _ _, .timedOut => some (session.fail iteration now latency)
  | _, .deadline =>
    some (session.finish iteration none (RequestMetric.error engine.timeoutMicros none))
  | _, _ => none

def take (worker : Worker) (turn : Turn) : Worker × List Output :=
  ({ worker with session := turn.session, suspended := turn.suspended }, turn.emitted)

def answer (worker : Worker) (content : List UInt8) : Option Worker :=
  (worker.session.stream.bind (Connection.answer · content)).map (fun connection =>
    { worker with session := { worker.session with stream := some connection } })

def advance (engine : WebSocketEngine) (worker : Worker) (now : Nat) :
    Option (Iteration × Await) → Event → Option (Worker × List Output)
  | _, .answer content => (worker.answer content).map (fun answered => (answered, []))
  | _, .cancelled => some ({ worker with suspended := none, running := false }, [])
  | none, .begin fault =>
    some
      (take { worker with iterations := worker.iterations + 1 }
        (worker.session.start ⟨worker.iterations, now, fault⟩ now))
  | none, _ => none
  | some (iteration, await), event =>
    (resume engine worker.session iteration now await event).map worker.take

def step (engine : WebSocketEngine) : Emitting Worker Action Output
  | worker, action =>
    if worker.running then
      worker.advance engine action.now worker.suspended action.event
    else
      none

end Worker

end Strobengine.Protocols.Websocket
