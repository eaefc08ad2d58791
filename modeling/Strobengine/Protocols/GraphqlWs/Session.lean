import Strobengine.Foundations.Emission
import Strobengine.Metrics.Request
import Strobengine.Rust.Json

/-!
# Subscriptions

An iteration of a subscription worker connects, initialises and subscribes when that is needed, and
waits for the next event. Every await point is a state in which the iteration is suspended; its
deadline drops it there and leaves the session as it is.
-/

namespace Strobengine.Protocols.GraphqlWs

open Foundations Metrics Rust

def subscriptionId : String :=
  "1"

structure SubscriptionPayload where
  query : String
  variablesJson : Option String
  operationName : Option String

/-- `{"id":"1","type":"subscribe","payload":{...}}`. -/
def SubscriptionPayload.subscribeMessage (payload : SubscriptionPayload)
    (parsed : List (String × Json)) : Json :=
  .object
    [("id", .string subscriptionId), ("type", .string "subscribe"), ("payload",
        .object
          (("query", .string payload.query) ::
            parsed ++
              (payload.operationName.map
                (fun name => ("operationName", Json.string name))).toList))]

def SubscriptionPayload.subscribeFrame (json : JsonCodec) (payload : SubscriptionPayload) :
    Except String String :=
  let parsed : Except String (List (String × Json)) :=
    match payload.variablesJson with
    | none => .ok []
    | some raw =>
      match json.fromStr raw with
      | .ok value => .ok [("variables", value)]
      | .error reason => .error ("graphql_variables is not valid JSON: " ++ reason)
  match parsed with
  | .error reason => .error reason
  | .ok fields =>
    match json.toStr (payload.subscribeMessage fields) with
    | .ok text => .ok text
    | .error reason => .error ("failed to serialize subscribe frame: " ++ reason)

inductive ServerFrame where
  | next
  | error (count : Nat)
  | complete
  | ping
  | pong
  | ack
  | connectionError
  | other
  deriving DecidableEq, Repr

def decodeFrame (json : JsonCodec) (text : String) : ServerFrame :=
  match json.fromStr text with
  | .error _ => .other
  | .ok value =>
    match (value.get "type").bind Json.asStr with
    | some "next" => .next
    | some "error" => .error ((((value.get "payload").bind Json.asArray).map List.length).getD 1)
    | some "complete" => .complete
    | some "ping" => .ping
    | some "pong" => .pong
    | some "connection_ack" => .ack
    | some "connection_error" => .connectionError
    | _ => .other

inductive Message where
  | text (content : String)
  | binary (content : List UInt8)
  | ping
  | pong
  | close
  deriving DecidableEq, Repr

inductive ReadEvent where
  | next (bytes : Nat)
  | error (errors bytes : Nat)
  | complete
  | ack
  | connectionError
  | timeout
  | closed
  deriving DecidableEq, Repr

inductive Received where
  | event (event : ReadEvent)
  | answered
  | skipped
  deriving DecidableEq, Repr

def Message.received (json : JsonCodec) : Message → Received
  | .text content =>
    match decodeFrame json content with
    | .next => .event (.next content.utf8ByteSize)
    | .error errors => .event (.error errors content.utf8ByteSize)
    | .complete => .event .complete
    | .ack => .event .ack
    | .connectionError => .event .connectionError
    | .ping => .answered
    | .pong => .skipped
    | .other => .skipped
  | .binary content => .event (.next content.length)
  | .ping => .skipped
  | .pong => .skipped
  | .close => .event .closed

def connectionInit : Message :=
  .text "\x7b\"type\":\"connection_init\"\x7d"

def pongFrame : Message :=
  .text "\x7b\"type\":\"pong\"\x7d"

def corruptedFrame : Message :=
  .binary [0xff, 0xfe, 0xbd, 0xef]

structure GraphqlWsEngine where
  payload : SubscriptionPayload
  timeoutSecs : Nat
  json : JsonCodec

/-- The timeout of a session and of an iteration, in microseconds; zero means the
default. -/
def GraphqlWsEngine.timeout (engine : GraphqlWsEngine) : Nat :=
  (if 0 < engine.timeoutSecs then engine.timeoutSecs else 5) * 1000000

theorem GraphqlWsEngine.timeout_pos (engine : GraphqlWsEngine) : 0 < engine.timeout := by
  unfold timeout
  split <;> omega

structure GraphqlWsSession where
  stream : Bool := false
  initialized : Bool := false
  subscribed : Bool := false
  subscribeSentAt : Option Nat := none
  lastMessageAt : Option Nat := none
  ttfmRecorded : Bool := false
  deriving DecidableEq, Repr

inductive Request where
  | init
  | corrupted
  | subscribe
  deriving DecidableEq, Repr

/-- What a read is for; that of a subscription knows the operations that its iteration has
started. -/
inductive Purpose where
  | init
  | corrupted
  | subscription (operations : Option Nat)
  deriving DecidableEq, Repr

inductive Await where
  | sleep
  | connect
  | send (request : Request)
  | read (purpose : Purpose) (deadline : Nat)
  | pong (purpose : Purpose) (deadline : Nat)
  deriving DecidableEq, Repr

structure Iteration where
  reqStart : Nat
  fault : Option ChaosFault
  deriving DecidableEq, Repr

inductive Ending where
  | onRead (event : ReadEvent)
  | onDeadline (reading : Bool)
  | onFailure
  deriving DecidableEq, Repr

inductive Output where
  | opened
  | sent (message : Message)
  | reading
  | returned (ending : Ending) (metric : RequestMetric)
  deriving DecidableEq, Repr

structure Turn where
  session : GraphqlWsSession
  suspended : Option (Iteration × Await)
  emitted : List Output
  deriving DecidableEq, Repr

namespace Iteration

def elapsed (iteration : Iteration) (now : Nat) : Nat :=
  now - iteration.reqStart

def error (iteration : Iteration) (now : Nat) : RequestMetric :=
  RequestMetric.error (iteration.elapsed now) iteration.fault

def success (iteration : Iteration) (now bytes : Nat) (sample : Option GraphqlWsSample) :
    RequestMetric :=
  { latencyMicros := iteration.elapsed now
    chaosFault := iteration.fault
    statusCode := 200
    bytesReceived := bytes
    protocol := sample.map ProtocolSample.graphqlWs }

end Iteration

namespace GraphqlWsSession

def reset (_ : GraphqlWsSession) : GraphqlWsSession :=
  {}

def finish (session : GraphqlWsSession) (ending : Ending) (metric : RequestMetric) : Turn :=
  { session, suspended := none, emitted := [.returned ending metric] }

section Iterating

variable (engine : GraphqlWsEngine) (session : GraphqlWsSession) (iteration : Iteration) (now : Nat)

def suspend (await : Await) (emitted : List Output) : Turn :=
  { session, suspended := some (iteration, await), emitted }

def timedOut : Purpose → Turn
  | .init => session.reset.finish (.onRead .timeout) (iteration.error now)
  | .corrupted => session.finish (.onRead .timeout) (iteration.error now)
  | .subscription _ => session.finish (.onRead .timeout) (iteration.error now)

def closed : Purpose → Turn
  | .init => session.reset.finish (.onRead .closed) (iteration.error now)
  | .corrupted => session.finish (.onRead .closed) (iteration.error now)
  | .subscription _ => session.reset.finish (.onRead .closed) (iteration.error now)

def nextFrame (purpose : Purpose) (deadline : Nat) : Turn :=
  if deadline ≤ now then
    session.timedOut iteration now purpose
  else if session.stream then
    session.suspend iteration (.read purpose deadline) [.reading]
  else
    session.closed iteration now purpose

def startRead (purpose : Purpose) : Turn :=
  session.nextFrame iteration now purpose (now + engine.timeout)

def sendFailed : Turn :=
  session.reset.finish .onFailure (iteration.error now)

def send (request : Request) (message : Message) : Turn :=
  if session.stream then
    session.suspend iteration (.send request) [.sent message]
  else
    session.sendFailed iteration now

def exchange : Turn :=
  if iteration.fault = some .corruptedPayload then
    session.send iteration now .corrupted corruptedFrame
  else if session.subscribed then
    session.startRead engine iteration now (.subscription none)
  else
    match engine.payload.subscribeFrame engine.json with
    | .error _ => session.finish .onFailure (iteration.error now)
    | .ok frame => session.send iteration now .subscribe (.text frame)

def ensureInitialized : Turn :=
  if session.initialized then
    session.exchange engine iteration now
  else
    session.send iteration now .init connectionInit

def ensureConnected : Turn :=
  if session.stream then
    session.ensureInitialized engine iteration now
  else
    session.suspend iteration .connect []

def runIteration : Turn :=
  match iteration.fault with
  | some .connectionDrop => session.finish .onFailure (iteration.error now)
  | some (.latencySpike _) => session.suspend iteration .sleep []
  | _ => session.ensureConnected engine iteration now

def connected : Turn :=
  let turn := ensureInitialized engine { session with stream := true } iteration now
  { turn with emitted := .opened :: turn.emitted }

def sent : Request → Turn
  | .init => session.startRead engine iteration now .init
  | .corrupted => session.startRead engine iteration now .corrupted
  | .subscribe =>
    startRead engine
      { session with
        subscribed := true
        subscribeSentAt := some now
        lastMessageAt := none
        ttfmRecorded := false }
      iteration now (.subscription (some 1))

def message (operations : Option Nat) (bytes : Nat) : Turn :=
  let ttfmUs :=
    if session.ttfmRecorded then none else session.subscribeSentAt.map (now - ·)
  let intervalUs := session.lastMessageAt.map (now - ·)
  finish { session with ttfmRecorded := true, lastMessageAt := some now }
    (.onRead (.next bytes))
    (iteration.success now bytes
      (some { operations, ttfmUs, intervalUs }))

def onEvent (deadline : Nat) : Purpose → ReadEvent → Turn
  | purpose, .timeout => session.timedOut iteration now purpose
  | purpose, .closed => session.closed iteration now purpose
  | .init, .ack => exchange engine { session with initialized := true } iteration now
  | .init, .connectionError => session.reset.finish (.onRead .connectionError) (iteration.error now)
  | .init, _ => session.nextFrame iteration now .init deadline
  | .corrupted, .next bytes =>
    session.finish (.onRead (.next bytes)) (iteration.success now bytes none)
  | .corrupted, event => session.finish (.onRead event) (iteration.error now)
  | .subscription operations, .next bytes => session.message iteration now operations bytes
  | .subscription operations, .error errors bytes =>
    finish { session with subscribed := false } (.onRead (.error errors bytes))
      (iteration.success now bytes
        (some { operations, errors := some errors }))
  | .subscription operations, .complete =>
    finish { session with subscribed := false } (.onRead .complete)
      (iteration.success now 0 (some { operations }))
  | .subscription operations, .ack =>
    session.finish (.onRead .ack)
      (iteration.success now 0 (some { operations }))
  | .subscription _, .connectionError =>
    session.reset.finish (.onRead .connectionError) (iteration.error now)

def received (purpose : Purpose) (deadline : Nat) (message : Message) : Turn :=
  match message.received engine.json with
  | .event event => session.onEvent engine iteration now deadline purpose event
  | .answered =>
    if session.stream then
      session.suspend iteration (.pong purpose deadline) [.sent pongFrame]
    else
      session.nextFrame iteration now purpose deadline
  | .skipped => session.nextFrame iteration now purpose deadline

end Iterating

end GraphqlWsSession

/-- A worker whose session lives from one iteration to the next, or one without a session
that makes a new one for every iteration. -/
structure Worker where
  persistent : Bool
  session : GraphqlWsSession
  suspended : Option (Iteration × Await)
  running : Bool
  deriving DecidableEq, Repr

inductive WorkerEvent where
  | begin (fault : Option ChaosFault)
  | woke
  | connected
  | connectFailed
  | sent
  | sendFailed
  | message (message : Message)
  | streamFailed
  | timedOut
  | deadline
  | cancelled
  deriving DecidableEq, Repr

structure WorkerAction where
  now : Nat
  event : WorkerEvent
  deriving DecidableEq, Repr

namespace Worker

def new (persistent : Bool) : Worker :=
  { persistent, session := {}, suspended := none, running := true }

def resume (engine : GraphqlWsEngine) (session : GraphqlWsSession) (iteration : Iteration)
    (now : Nat) : Await → WorkerEvent → Option Turn
  | .sleep, .woke => some (session.ensureConnected engine iteration now)
  | .connect, .connected => some (session.connected engine iteration now)
  | .connect, .connectFailed => some (session.reset.finish .onFailure (iteration.error now))
  | .send request, .sent => some (session.sent engine iteration now request)
  | .send _, .sendFailed => some (session.sendFailed iteration now)
  | .read purpose deadline, .message message =>
    some (session.received engine iteration now purpose deadline message)
  -- an error of the stream, or its end
  | .read purpose _, .streamFailed => some (session.closed iteration now purpose)
  | .read purpose deadline, .timedOut =>
    if deadline ≤ now then some (session.timedOut iteration now purpose) else none
  -- whether the pong was sent does not matter
  | .pong purpose deadline, .sent => some (session.nextFrame iteration now purpose deadline)
  | .pong purpose deadline, .sendFailed => some (session.nextFrame iteration now purpose deadline)
  | .read _ _, .deadline =>
    some (session.finish (.onDeadline true) (RequestMetric.error engine.timeout none))
  | _, .deadline =>
    some (session.finish (.onDeadline false) (RequestMetric.error engine.timeout none))
  | _, _ => none

def take (worker : Worker) (turn : Turn) : Worker × List Output :=
  ({ worker with
      session := if worker.persistent || turn.suspended.isSome then turn.session else {}
      suspended := turn.suspended },
    turn.emitted)

def advance (engine : GraphqlWsEngine) (worker : Worker) (now : Nat) :
    Option (Iteration × Await) → WorkerEvent → Option (Worker × List Output)
  | _, .cancelled => some ({ worker with suspended := none, running := false }, [])
  | none, .begin fault => some (worker.take (worker.session.runIteration engine ⟨now, fault⟩ now))
  | none, _ => none
  | some (iteration, await), event =>
    (resume engine worker.session iteration now await event).map worker.take

def step (engine : GraphqlWsEngine) : Emitting Worker WorkerAction Output
  | worker, action =>
    if worker.running then
      worker.advance engine action.now worker.suspended action.event
    else
      none

end Worker

/-- A text is the type of its frame; `foreign` is the end of another subscription. -/
def wordCodec : JsonCodec :=
  { fromStr := fun text =>
      if text = "foreign" then
        .ok (.object [("id", .string "2"), ("type", .string "complete")])
      else
        .ok (.object [("id", .string subscriptionId), ("type", .string text)])
    toStr := fun _ => .ok "subscribe" }

def GraphqlWsEngine.sample : GraphqlWsEngine :=
  { payload := { query := "", variablesJson := none, operationName := none }
    timeoutSecs := 0
    json := wordCodec }

def firstMessage (now : Nat) : List WorkerAction :=
  [⟨now, .begin none⟩, ⟨now, .connected⟩, ⟨now, .sent⟩,
    ⟨now, .message (.text "connection_ack")⟩, ⟨now, .sent⟩, ⟨now, .message (.text "next")⟩]

end Strobengine.Protocols.GraphqlWs
