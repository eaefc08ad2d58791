import Strobengine.Metrics.Finalize
import Strobengine.Protocols.Websocket.Backpressure
import Strobengine.Protocols.Websocket.Persistent

/-!
# Publishers and subscribers

A publisher sends one message an iteration and never reads; a subscriber reads until one data frame
has arrived and never writes. Both connect when they have no connection, and only then draw the
fault of the iteration.
-/

namespace Strobengine.Protocols.Websocket

open Foundations Metrics Rust
open Backpressure (CountingSink)

/-- An engine with what its roles need; `warn_bytes` is computed once. -/
structure RoleEngine extends WebSocketEngine where
  wsRole : Option String
  wsPersistent : Bool
  warnBytes : Nat

inductive Seen where
  | opened
  | ping
  | pong
  | returned (metric : RequestMetric)
  deriving DecidableEq, Repr

/-- Encode a pub/sub payload: 16-byte big-endian nanosecond timestamp and the user payload. -/
def createPubsubPayload (nowNs : Nat) (userPayload : List UInt8) : List UInt8 :=
  toBeBytes nowNs 16 ++ userPayload

/-- Decode a pub/sub payload; `none` if the data is shorter than 16 bytes. -/
def parsePubsubPayload (data : List UInt8) : Option (Nat × List UInt8) :=
  if data.length < 16 then none else some (fromBeBytes (data.take 16), data.drop 16)

/-- What an iteration knows. That it has opened the connection is history. -/
structure RoleIteration where
  reqStart : Nat
  fault : Option ChaosFault
  opened : Bool
  deriving DecidableEq, Repr

inductive RoleAwait (Task : Type) where
  | connect
  | sleep
  | working (task : Task)
  deriving DecidableEq, Repr

inductive RoleEvent (Step : Type) where
  | begin (fault : Option ChaosFault)
  | connected
  | connectFailed
  | woke
  | work (step : Step)
  | deadline
  | cancelled
  deriving DecidableEq, Repr

structure RoleAction (Step : Type) where
  now : Nat
  wallclockNs : Nat
  event : RoleEvent Step
  deriving DecidableEq, Repr

/-- What comes of a step of the work: the iteration goes on, or returns and keeps its
connection or not. -/
inductive Progress (Link Task : Type) where
  | suspended (link : Link) (task : Task)
  | returned (link : Option Link) (metric : RequestMetric)

/-- The connection of a role, the work of an iteration, and the heartbeat frames that a step
of the work reads. -/
structure Role (Link Task Step : Type) where
  connect : Link
  task : RoleIteration → Nat → Task
  work : RoleIteration → RoleAction Step → Link → Task → Step → Option (Progress Link Task)
  heard : Step → List Seen

structure RoleWorker (Link Task : Type) where
  link : Option Link
  suspended : Option (RoleIteration × RoleAwait Task)
  running : Bool
  deriving DecidableEq, Repr

namespace RoleWorker

variable {Link Task Step : Type}

def new : RoleWorker Link Task :=
  { link := none, suspended := none, running := true }

section Iterating

variable (role : Role Link Task Step) (worker : RoleWorker Link Task)
  (iteration : RoleIteration) (action : RoleAction Step)

def suspend (await : RoleAwait Task) : RoleWorker Link Task × List Seen :=
  ({ worker with suspended := some (iteration, await) }, [])

def finish (link : Option Link) (metric : RequestMetric) : RoleWorker Link Task × List Seen :=
  ({ worker with link, suspended := none }, [.returned metric])

def failed (fault : Option ChaosFault) : RequestMetric :=
  RequestMetric.error (action.now - iteration.reqStart) fault

def enter : RoleWorker Link Task × List Seen :=
  match worker.link with
  | none => worker.finish none (failed iteration action iteration.fault)
  | some _ => worker.suspend iteration (.working (role.task iteration action.wallclockNs))

def applyChaos : RoleWorker Link Task × List Seen :=
  match iteration.fault with
  | some .connectionDrop => worker.finish worker.link (failed iteration action iteration.fault)
  | some (.latencySpike _) => worker.suspend iteration .sleep
  | _ => worker.enter role iteration action

def start : RoleWorker Link Task × List Seen :=
  if worker.link.isSome then
    worker.applyChaos role iteration action
  else
    worker.suspend iteration .connect

def connected : RoleWorker Link Task × List Seen :=
  let (next, seen) :=
    applyChaos role { worker with link := some role.connect } { iteration with opened := true }
      action
  (next, .opened :: seen)

def progress : Progress Link Task → RoleWorker Link Task × List Seen
  | .suspended link task => suspend { worker with link := some link } iteration (.working task)
  | .returned link metric => worker.finish link metric

end Iterating

def resume (role : Role Link Task Step) (timeoutMicros : Nat) (worker : RoleWorker Link Task)
    (iteration : RoleIteration) (action : RoleAction Step) :
    RoleAwait Task → RoleEvent Step → Option (RoleWorker Link Task × List Seen)
  | .connect, .connected => some (worker.connected role iteration action)
  | .connect, .connectFailed => some (worker.finish worker.link (failed iteration action none))
  | .sleep, .woke => some (worker.enter role iteration action)
  | .working task, .work step =>
    (worker.link.bind (role.work iteration action · task step)).map (fun done =>
      let (next, seen) := worker.progress iteration done
      (next, role.heard step ++ seen))
  | _, .deadline => some (worker.finish worker.link (RequestMetric.error timeoutMicros none))
  | _, _ => none

def advance (role : Role Link Task Step) (timeoutMicros : Nat) (worker : RoleWorker Link Task)
    (action : RoleAction Step) :
    Option (RoleIteration × RoleAwait Task) → RoleEvent Step →
      Option (RoleWorker Link Task × List Seen)
  | _, .cancelled => some ({ worker with suspended := none, running := false }, [])
  | none, .begin fault => some (worker.start role ⟨action.now, fault, false⟩ action)
  | none, _ => none
  | some (iteration, await), event => worker.resume role timeoutMicros iteration action await event

def step (role : Role Link Task Step) (timeoutMicros : Nat) :
    Emitting (RoleWorker Link Task) (RoleAction Step) Seen
  | worker, action =>
    if worker.running then
      worker.advance role timeoutMicros action worker.suspended action.event
    else
      none

inductive Moves (role : Role Link Task Step) (timeoutMicros : Nat)
    (worker : RoleWorker Link Task) (action : RoleAction Step) :
    RoleWorker Link Task × List Seen → Prop where
  | cancelled (event : action.event = .cancelled) :
      Moves role timeoutMicros worker action
        ({ worker with suspended := none, running := false }, [])
  | begins {fault : Option ChaosFault} (place : worker.suspended = none)
      (event : action.event = .begin fault) :
      Moves role timeoutMicros worker action (worker.start role ⟨action.now, fault, false⟩ action)
  | connects {iteration : RoleIteration} (place : worker.suspended = some (iteration, .connect))
      (event : action.event = .connected) :
      Moves role timeoutMicros worker action (worker.connected role iteration action)
  | refused {iteration : RoleIteration} (place : worker.suspended = some (iteration, .connect))
      (event : action.event = .connectFailed) :
      Moves role timeoutMicros worker action
        (worker.finish worker.link (failed iteration action none))
  | enters {iteration : RoleIteration} (place : worker.suspended = some (iteration, .sleep))
      (event : action.event = .woke) :
      Moves role timeoutMicros worker action (worker.enter role iteration action)
  | works {iteration : RoleIteration} {task : Task} {step : Step} {link : Link}
      {done : Progress Link Task} (place : worker.suspended = some (iteration, .working task))
      (event : action.event = .work step)
      (worked : role.work iteration action link task step = some done) :
      Moves role timeoutMicros worker action
        ((worker.progress iteration done).1, role.heard step ++ (worker.progress iteration done).2)
  | expires {iteration : RoleIteration} {await : RoleAwait Task}
      (place : worker.suspended = some (iteration, await)) (event : action.event = .deadline) :
      Moves role timeoutMicros worker action
        (worker.finish worker.link (RequestMetric.error timeoutMicros none))

theorem moves_of_step {role : Role Link Task Step} {timeoutMicros : Nat}
    {worker : RoleWorker Link Task} {action : RoleAction Step}
    {result : RoleWorker Link Task × List Seen}
    (taken : worker.step role timeoutMicros action = some result) :
    worker.Moves role timeoutMicros action result := by
  cases running : worker.running with
  | false => simp [step, running] at taken
  | true =>
    rw [step, if_pos running] at taken
    generalize place : worker.suspended = suspended at taken
    generalize event : action.event = happened at taken
    unfold advance at taken
    split at taken
    · cases taken
      exact .cancelled event
    · cases taken
      exact .begins place event
    · cases taken
    · unfold resume at taken
      split at taken
      · cases taken
        exact .connects place event
      · cases taken
        exact .refused place event
      · cases taken
        exact .enters place event
      · obtain ⟨done, worked, rfl⟩ := Option.map_eq_some_iff.mp taken
        obtain ⟨link, _, worked⟩ := Option.bind_eq_some_iff.mp worked
        exact .works place event worked
      · cases taken
        exact .expires place event
      · cases taken

end RoleWorker

inductive PublisherTask where
  | feed (payload : List UInt8)
  | flush (fed : Bool) (payloadLen inFlight : Nat)
  deriving DecidableEq, Repr

inductive PublisherStep where
  | accepted
  | refused (counted : Bool)
  | flushed
  | flushFailed
  deriving DecidableEq, Repr

namespace RoleEngine

def publisherPayload (engine : RoleEngine) (fault : Option ChaosFault) (nowNs : Nat) : List UInt8 :=
  match fault with
  | some .corruptedPayload => [0xff, 0xfe, 0xbd, 0xef]
  | _ => createPubsubPayload nowNs (utf8 (engine.payload.getD ""))

def published (engine : RoleEngine) (iteration : RoleIteration)
    (action : RoleAction PublisherStep) (payloadLen inFlight : Nat) : RequestMetric :=
  { latencyMicros := action.now - iteration.reqStart
    chaosFault := iteration.fault
    statusCode := 200
    bytesReceived := payloadLen
    connection := { timestampSentNs := some action.wallclockNs, isSocketReused := true }
    protocol :=
      some
        (.ws
          { backpressureMaxBytes := inFlight
            backpressureSamplesSum := inFlight
            backpressureSampleCount := 1
            thresholdBreaches :=
              if 0 < engine.warnBytes ∧ engine.warnBytes ≤ inFlight then 1 else 0 }) }

def publish (engine : RoleEngine) (iteration : RoleIteration)
    (action : RoleAction PublisherStep) (sink : CountingSink) :
    PublisherTask → PublisherStep → Option (Progress CountingSink PublisherTask)
  | .feed payload, .accepted =>
    let fed := sink.startSend (.binary payload)
    some (.suspended fed (.flush true payload.length fed.inFlight))
  | .feed payload, .refused counted =>
    let tried := if counted then sink.startSend (.binary payload) else sink
    some (.suspended tried (.flush false payload.length tried.inFlight))
  | .flush true payloadLen inFlight, .flushed =>
    let result := engine.published iteration action payloadLen inFlight
    some (.returned (some (sink.pollFlush true)) result)
  | .flush false _ _, .flushed | .flush _ _ _, .flushFailed =>
    some (.returned none (RoleWorker.failed iteration action iteration.fault))
  | _, _ => none

def publisher (engine : RoleEngine) : Role CountingSink PublisherTask PublisherStep where
  connect := .new engine.warnBytes
  task iteration nowNs := .feed (engine.publisherPayload iteration.fault nowNs)
  work := engine.publish
  heard _ := []

end RoleEngine

inductive Frame where
  | binary (data : List UInt8)
  | text (data : List UInt8)
  | ping
  | pong
  | close
  | other
  deriving DecidableEq, Repr

structure SubscriberTask where
  pings : Nat := 0
  pongs : Nat := 0
  deriving DecidableEq, Repr

inductive SubscriberStep where
  | frame (frame : Frame)
  | streamEnded
  | readFailed
  | timedOut
  deriving DecidableEq, Repr

def SubscriberTask.received (task : SubscriberTask) (iteration : RoleIteration)
    (action : RoleAction SubscriberStep) (data : List UInt8) : RequestMetric :=
  { latencyMicros := action.now - iteration.reqStart
    chaosFault := iteration.fault
    statusCode := 200
    bytesReceived := data.length
    connection :=
      { e2eLatencyUs :=
          (parsePubsubPayload data).map (fun (sentNs, _) => (action.wallclockNs - sentNs) / 1000)
        isSocketReused := true }
    protocol :=
      if 0 < task.pings ∨ 0 < task.pongs then
        some (.ws { pingsReceived := task.pings, pongsUnsolicited := task.pongs })
      else
        none }

def subscribe (iteration : RoleIteration) (action : RoleAction SubscriberStep) (_ : Unit)
    (task : SubscriberTask) : SubscriberStep → Option (Progress Unit SubscriberTask)
  | .frame (.binary data) | .frame (.text data) =>
    some (.returned (some ()) (task.received iteration action data))
  | .frame .ping => some (.suspended () { task with pings := task.pings + 1 })
  | .frame .pong => some (.suspended () { task with pongs := task.pongs + 1 })
  | .frame .other => some (.suspended () task)
  | .frame .close | .streamEnded | .readFailed =>
    some (.returned none (RoleWorker.failed iteration action iteration.fault))
  | .timedOut => some (.returned (some ()) (RoleWorker.failed iteration action iteration.fault))

def SubscriberStep.heard : SubscriberStep → List Seen
  | .frame .ping => [.ping]
  | .frame .pong => [.pong]
  | _ => []

def subscriber : Role Unit SubscriberTask SubscriberStep where
  connect := ()
  task _ _ := {}
  work := subscribe
  heard := SubscriberStep.heard

def Event.seen : Event → List Seen
  | .connected => [.opened]
  | .ping => [.ping]
  | .pong => [.pong]
  | _ => []

def Output.seen : Output → Seen
  | .returned _ _ metric => .returned metric

def Worker.observed (engine : WebSocketEngine) : Emitting Worker Action Seen
  | worker, action =>
    (worker.step engine action).map (fun (next, outputs) =>
      (next, action.event.seen ++ outputs.map Output.seen))

/-- What a step of a persistent session can do: the server answers, the run ends, or an
iteration begins or goes on. -/
inductive Worker.Moves (engine : WebSocketEngine) (worker : Worker) (action : Action) :
    Worker → List Seen → Prop where
  | answered {content : List UInt8} (stream : Option Connection)
      (happened : action.event = .answer content) :
      Moves engine worker action
        { worker with session := { worker.session with stream } } []
  | cancelled (happened : action.event = .cancelled) :
      Moves engine worker action { worker with suspended := none, running := false } []
  | begins {fault : Option ChaosFault} {turn : Turn} (idle : worker.suspended = none)
      (happened : action.event = .begin fault)
      (started : worker.session.start ⟨worker.iterations, action.now, fault⟩ action.now = turn) :
      Moves engine worker action
        { worker with
          session := turn.session
          suspended := turn.suspended
          iterations := worker.iterations + 1 }
        (turn.emitted.map Output.seen)
  | resumes {iteration : Iteration} {await : Await} {turn : Turn}
      (place : worker.suspended = some (iteration, await))
      (resumed :
        Worker.resume engine worker.session iteration action.now await action.event = some turn) :
      Moves engine worker action
        { worker with session := turn.session, suspended := turn.suspended }
        (action.event.seen ++ turn.emitted.map Output.seen)

theorem Worker.moves_of_observed {engine : WebSocketEngine} {worker next : Worker}
    {action : Action} {emitted : List Seen}
    (taken : worker.observed engine action = some (next, emitted)) :
    worker.Moves engine action next emitted := by
  obtain ⟨⟨moved, outputs⟩, stepped, result⟩ := Option.map_eq_some_iff.mp taken
  cases result
  cases running : worker.running with
  | false => simp [step, running] at stepped
  | true =>
    rw [step, if_pos running] at stepped
    generalize place : worker.suspended = suspended at stepped
    generalize happened : action.event = event at stepped ⊢
    unfold advance at stepped
    split at stepped
    · obtain ⟨answered, accepted, result⟩ := Option.map_eq_some_iff.mp stepped
      cases result
      obtain ⟨connection, _, rfl⟩ := Option.map_eq_some_iff.mp accepted
      exact .answered (some connection) happened
    · cases stepped
      exact .cancelled happened
    · cases stepped
      exact .begins place happened rfl
    · cases stepped
    · obtain ⟨turn, resumed, result⟩ := Option.map_eq_some_iff.mp stepped
      cases result
      rw [← happened] at resumed ⊢
      exact .resumes place resumed

def Worker.push (worker : Worker) (reply : Reply) : Option Worker :=
  worker.session.stream.map (fun connection =>
    { worker with
      session :=
        { worker.session with
          stream := some { connection with arriving := connection.arriving ++ [reply] } } })

inductive Session where
  | persistent (worker : Worker)
  | publisher (worker : RoleWorker CountingSink PublisherTask)
  | subscriber (worker : RoleWorker Unit SubscriberTask)
  deriving DecidableEq, Repr

inductive SessionAction where
  | persistent (action : Action)
  | push (reply : Reply)
  | publisher (action : RoleAction PublisherStep)
  | subscriber (action : RoleAction SubscriberStep)
  deriving DecidableEq, Repr

/-- `create_worker_context`; without a session every iteration stands alone. -/
def RoleEngine.createWorkerContext (engine : RoleEngine) : Option Session :=
  if engine.wsRole = some "publisher" then
    some (.publisher .new)
  else if engine.wsRole = some "subscriber" then
    some (.subscriber .new)
  else if engine.wsPersistent then
    some (.persistent (.new engine.toWebSocketEngine))
  else
    none

theorem RoleEngine.of_createWorkerContext {engine : RoleEngine} {session : Session}
    (Holds : Session → Prop) (created : engine.createWorkerContext = some session)
    (publisher : Holds (.publisher .new)) (subscriber : Holds (.subscriber .new))
    (persistent : Holds (.persistent (.new engine.toWebSocketEngine))) : Holds session := by
  unfold createWorkerContext at created
  split at created
  · cases created
    exact publisher
  · split at created
    · cases created
      exact subscriber
    · split at created <;> cases created
      exact persistent

def Session.step (engine : RoleEngine) : Emitting Session SessionAction Seen
  | .persistent worker, .persistent action =>
    (worker.observed engine.toWebSocketEngine action).map (Prod.map .persistent id)
  | .persistent worker, .push reply => (worker.push reply).map (fun next => (.persistent next, []))
  | .publisher worker, .publisher action =>
    (worker.step engine.publisher engine.timeoutMicros action).map (Prod.map .publisher id)
  | .subscriber worker, .subscriber action =>
    (worker.step Websocket.subscriber engine.timeoutMicros action).map
      (Prod.map .subscriber id)
  | _, _ => none

def roleEngine (role : Option String) : RoleEngine :=
  { payload := none, wsMaxMessages := none, timeoutMicros := 5000000, wsRole := role,
    wsPersistent := true, warnBytes := 0 }

end Strobengine.Protocols.Websocket
