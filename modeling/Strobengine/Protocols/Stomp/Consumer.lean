import Strobengine.Foundations.Emission
import Strobengine.Protocols.Stomp.Requests
import Strobengine.Protocols.Stopwatch

/-!
# Consumers

`consume` with what it measures. Unlike in the model of the wire, a read ends with a whole frame
here. A message is reported once its ACK is written, if it takes one.
-/

namespace Strobengine.Protocols.Stomp.Consumer

open Foundations Metrics
open Measurement (Timed)

/-- The session of a consumer; whether there is a connection is all that is kept of it. -/
structure Session where
  stream : Bool := false
  connected : Bool := false
  subscribed : Bool := false
  everConnected : Bool := false
  reconnectedThisIteration : Bool := false
  subscribedAt : Option Nat := none
  lastMessageAt : Option Nat := none
  sawFirstMessage : Bool := false
  deriving DecidableEq, Repr

structure Iteration where
  start : Nat
  chaosFault : Option ChaosFault
  deriving DecidableEq, Repr

structure Delivery where
  bodyLen : Nat
  ttfmUs : Option Nat
  intervalUs : Option Nat
  deriving DecidableEq, Repr

inductive Request where
  | connect
  | subscribe
  | ack (delivery : Delivery)
  deriving DecidableEq, Repr

inductive Awaited where
  | connected
  | message
  deriving DecidableEq, Repr

inductive Await where
  | sleep
  | tcpConnect
  | write (request : Request)
  | read (awaited : Awaited)
  deriving DecidableEq, Repr

inductive Seen where
  | subscribes
  | returned (metric : RequestMetric)
  deriving DecidableEq, Repr

structure Turn where
  session : Session
  suspended : Option (Iteration × Await)
  seen : List Seen
  deriving DecidableEq, Repr

def ackId (message : Frame) : Option String :=
  (message.header "ack").or (message.header "message-id")

namespace Session

def reset (session : Session) : Session :=
  { session with
    stream := false
    connected := false
    subscribed := false
    subscribedAt := none
    lastMessageAt := none
    sawFirstMessage := false }

section Iterating

variable (engine : StompEngine) (session : Session) (iteration : Iteration) (now : Nat)

def finish (metric : RequestMetric) : Turn :=
  { session, suspended := none, seen := [.returned metric] }

def suspend (await : Await) (seen : List Seen) : Turn :=
  { session, suspended := some (iteration, await), seen }

def errorMetric : RequestMetric :=
  { latencyMicros := now - iteration.start
    chaosFault := iteration.chaosFault
    protocol :=
      some (.stomp { errors := 1, reconnects := session.reconnectedThisIteration.toNat }) }

def fail : Turn :=
  session.reset.finish (session.reset.errorMetric iteration now)

def writeFrame (request : Request) (seen : List Seen) : Turn :=
  if session.stream then
    session.suspend iteration (.write request) seen
  else
    session.fail iteration now

def readFrame (awaited : Awaited) : Turn :=
  if session.stream then
    session.suspend iteration (.read awaited) []
  else
    session.fail iteration now

def report (delivery : Delivery) : Turn :=
  session.finish
    { latencyMicros := now - iteration.start
      statusCode := 200
      bytesReceived := delivery.bodyLen
      chaosFault := iteration.chaosFault
      protocol :=
        some
          (.stomp
            { messagesReceived := 1
              bytesReceived := delivery.bodyLen
              receiveIntervalUs := delivery.intervalUs
              ttfmUs := delivery.ttfmUs
              reconnects := session.reconnectedThisIteration.toNat }) }

def message (frame : Frame) : Turn :=
  let delivery : Delivery :=
    { bodyLen := frame.body.length
      ttfmUs := if session.sawFirstMessage then none else session.subscribedAt.map (now - ·)
      intervalUs := session.lastMessageAt.map (now - ·) }
  let noted : Session :=
    { session with sawFirstMessage := true, lastMessageAt := some now }
  match engine.ack, ackId frame with
  | .auto, _ => noted.report iteration now delivery
  | _, none => noted.report iteration now delivery
  | _, some _ => noted.writeFrame iteration now (.ack delivery) []

def ensureSubscribed : Turn :=
  if session.subscribed then
    session.readFrame iteration now .message
  else
    session.writeFrame iteration now .subscribe [.subscribes]

def consume : Turn :=
  if session.connected then
    session.ensureSubscribed iteration now
  else
    session.suspend iteration .tcpConnect []

def runIteration (chaosFault : Option ChaosFault) : Turn :=
  match chaosFault with
  | some (.latencySpike _) => session.suspend ⟨now, chaosFault⟩ .sleep []
  | some .connectionDrop => session.reset.finish (RequestMetric.error 0 chaosFault)
  | _ => consume { session with reconnectedThisIteration := false } ⟨now, chaosFault⟩ now

def opened : Turn :=
  writeFrame { session with stream := true } iteration now .connect []

def connectedNow : Turn :=
  ensureSubscribed
    { session with
      connected := true
      everConnected := true
      reconnectedThisIteration := session.reconnectedThisIteration || session.everConnected }
    iteration now

def written : Request → Turn
  | .connect => session.readFrame iteration now .connected
  | .subscribe =>
    readFrame
      { session with
        subscribed := true
        subscribedAt := some now
        lastMessageAt := none
        sawFirstMessage := false }
      iteration now .message
  | .ack delivery => session.report iteration now delivery

def received (awaited : Awaited) (frame : Frame) : Turn :=
  match awaited with
  | .connected =>
    if frame.command = "CONNECTED" then
      session.connectedNow iteration now
    else if frame.command = "ERROR" then
      session.fail iteration now
    else
      session.readFrame iteration now .connected
  | .message =>
    if frame.command = "MESSAGE" then
      session.message engine iteration now frame
    else if frame.command = "ERROR" then
      session.fail iteration now
    else
      session.readFrame iteration now .message

end Iterating

end Session

structure Worker where
  session : Session
  suspended : Option (Iteration × Await)
  running : Bool
  deriving DecidableEq, Repr

inductive Event where
  | begin (chaosFault : Option ChaosFault)
  | woke
  | opened
  | openFailed
  | written
  | writeFailed
  | received (frame : Frame)
  | readFailed
  | deadline (timeoutMicros : Nat)
  | cancelled
  deriving DecidableEq, Repr

structure Action where
  now : Nat
  event : Event
  deriving DecidableEq, Repr

namespace Worker

def new : Worker :=
  { session := {}, suspended := none, running := true }

def resume (engine : StompEngine) (session : Session) (iteration : Iteration) (now : Nat) :
    Await → Event → Option Turn
  -- the clock of `consume` starts after the latency spike
  | .sleep, .woke =>
    some
      (Session.consume { session with reconnectedThisIteration := false }
        { iteration with start := now } now)
  | .tcpConnect, .opened => some (session.opened iteration now)
  | .tcpConnect, .openFailed => some (session.fail iteration now)
  | .write request, .written => some (session.written iteration now request)
  | .write _, .writeFailed => some (session.fail iteration now)
  | .read awaited, .received frame => some (session.received engine iteration now awaited frame)
  | .read _, .readFailed => some (session.fail iteration now)
  | _, .deadline timeoutMicros => some (session.finish (RequestMetric.error timeoutMicros none))
  | _, _ => none

def take (worker : Worker) (turn : Turn) : Worker × List Seen :=
  ({ worker with session := turn.session, suspended := turn.suspended }, turn.seen)

def advance (engine : StompEngine) (worker : Worker) (now : Nat) :
    Option (Iteration × Await) → Event → Option (Worker × List Seen)
  | _, .cancelled => some ({ worker with suspended := none, running := false }, [])
  | none, .begin chaosFault => some (worker.take (worker.session.runIteration now chaosFault))
  | none, _ => none
  | some (iteration, await), event =>
    (resume engine worker.session iteration now await event).map worker.take

def step (engine : StompEngine) : Emitting Worker Action Seen
  | worker, action =>
    if worker.running then
      worker.advance engine action.now worker.suspended action.event
    else
      none

def completes (_ : Worker) (action : Action) : Prop :=
  match action.event with
  | .deadline _ => False
  | .cancelled => False
  | _ => True

instance (worker : Worker) (action : Action) : Decidable (worker.completes action) := by
  unfold completes
  split <;> infer_instance

end Worker

/-! ## What a consumer measures -/

def Seen.measurement? : Seen → Option Measurement
  | .subscribes => some .subscribed
  | .returned metric =>
    match metric.protocol with
    | some (.stomp sample) =>
      if sample.messagesReceived = 0 then
        none
      else
        some (.message sample.ttfmUs sample.receiveIntervalUs)
    | _ => none

def measured (log : List Seen) : List Measurement :=
  log.filterMap Seen.measurement?

theorem measured_append (log rest : List Seen) :
    measured (log ++ rest) = measured log ++ measured rest :=
  List.filterMap_append

def Session.watch (session : Session) : Stopwatch :=
  { startedAt := session.subscribedAt
    lastAt := session.lastMessageAt
    seen := session.sawFirstMessage }

/-- How the session stands where an iteration is suspended. A message that is not acknowledged
yet has been measured already. -/
def Await.Timely (session : Session) (times : List Measurement) : Await → Prop
  | .sleep => session.subscribed = true → session.watch.Goes times
  | .write .subscribe => session.connected = true ∧ since Measurement.isSubscribed times = []
  | .write (.ack delivery) =>
    Timed times (.message delivery.ttfmUs delivery.intervalUs) ∧
      session.watch.Goes (times ++ [.message delivery.ttfmUs delivery.intervalUs])
  | .read .message => session.watch.Goes times
  | _ => session.subscribed = false

structure Timing (session : Session) (place : Option (Iteration × Await))
    (times : List Measurement) : Prop where
  connected : session.subscribed = true → session.connected = true
  timed : Grounded Timed times
  idle : place = none → session.subscribed = true → session.watch.Goes times
  suspended : ∀ iteration await, place = some (iteration, await) → await.Timely session times

def Turn.Timing (turn : Turn) (times : List Measurement) : Prop :=
  Consumer.Timing turn.session turn.suspended (times ++ measured turn.seen)

namespace Session

section Turns

variable {engine : StompEngine} {session : Session} (iteration : Iteration) (now : Nat)
  {times : List Measurement}

theorem timing_finish {metric : RequestMetric}
    (connected : session.subscribed = true → session.connected = true)
    (timed : Grounded Timed (times ++ measured [.returned metric]))
    (goes : session.subscribed = true → session.watch.Goes (times ++ measured [.returned metric])) :
    (session.finish metric).Timing times :=
  ⟨connected, timed, fun _ => goes, fun _ _ suspended => by cases suspended⟩

theorem timing_reset {metric : RequestMetric} (timed : Grounded Timed times)
    (unmeasured : measured [.returned metric] = []) :
    (session.reset.finish metric).Timing times := by
  apply timing_finish
  · intro subscribed
    cases subscribed
  · rw [unmeasured, List.append_nil]
    exact timed
  · intro subscribed
    cases subscribed

theorem timing_fail (timed : Grounded Timed times) :
    (session.fail iteration now).Timing times :=
  timing_reset timed rfl

variable (connected : session.subscribed = true → session.connected = true)
  (timed : Grounded Timed times)
include connected timed

theorem timing_suspend {await : Await} (timely : await.Timely session times) :
    (session.suspend iteration await []).Timing times := by
  unfold Turn.Timing
  rw [show times ++ measured (session.suspend iteration await []).seen = times from
    List.append_nil times]
  refine ⟨connected, timed, fun idle => (by cases idle), ?_⟩
  intro _ _ suspended
  cases suspended
  exact timely

theorem timing_writeFrame
    {request : Request} (timely : (Await.write request).Timely session times) :
    (session.writeFrame iteration now request []).Timing times := by
  unfold writeFrame
  split
  · exact timing_suspend iteration connected timed timely
  · exact timing_fail iteration now timed

omit connected in
theorem timing_subscribe (isConnected : session.connected = true) :
    (session.writeFrame iteration now .subscribe [.subscribes]).Timing times := by
  unfold writeFrame
  split
  · refine ⟨fun _ => isConnected, timed.concat True.intro, fun idle => (by cases idle), ?_⟩
    intro _ _ suspended
    cases suspended
    exact ⟨isConnected, since_concat_of_marked times rfl⟩
  · exact timing_fail iteration now timed

theorem timing_readFrame
    {awaited : Awaited} (timely : (Await.read awaited).Timely session times) :
    (session.readFrame iteration now awaited).Timing times := by
  unfold readFrame
  split
  · exact timing_suspend iteration connected timed timely
  · exact timing_fail iteration now timed

theorem timing_report
    {delivery : Delivery} (timely : (Await.write (.ack delivery)).Timely session times) :
    (session.report iteration now delivery).Timing times :=
  timing_finish connected (timed.concat timely.1) (fun _ => timely.2)

theorem timing_message (frame : Frame) (goes : session.watch.Goes times) :
    (session.message engine iteration now frame).Timing times := by
  have timely :
      Await.Timely { session with sawFirstMessage := true, lastMessageAt := some now } times
        (.write
          (.ack
            { bodyLen := frame.body.length
              ttfmUs := session.watch.ttfm now
              intervalUs := session.watch.interval now })) :=
    ⟨goes.timed now, goes.concat_message now _ _⟩
  unfold message
  dsimp only
  split
  · exact timing_report iteration now (by exact connected) timed timely
  · exact timing_report iteration now (by exact connected) timed timely
  · exact timing_writeFrame iteration now (by exact connected) timed timely

omit connected in
theorem timing_ensureSubscribed (isConnected : session.connected = true)
    (goes : session.subscribed = true → session.watch.Goes times) :
    (session.ensureSubscribed iteration now).Timing times := by
  unfold ensureSubscribed
  split
  · rename_i subscribed
    exact timing_readFrame iteration now (fun _ => isConnected) timed (goes subscribed)
  · exact timing_subscribe iteration now timed isConnected

theorem timing_consume (goes : session.subscribed = true → session.watch.Goes times) :
    (session.consume iteration now).Timing times := by
  unfold consume
  split
  · rename_i isConnected
    exact timing_ensureSubscribed iteration now timed isConnected goes
  · rename_i disconnected
    have unsubscribed : session.subscribed = false :=
      eq_false_of_ne_true (fun subscribed => disconnected (connected subscribed))
    exact timing_suspend iteration connected timed unsubscribed

theorem timing_runIteration (chaosFault : Option ChaosFault)
    (goes : session.subscribed = true → session.watch.Goes times) :
    (session.runIteration now chaosFault).Timing times := by
  unfold runIteration
  split
  · exact timing_suspend _ connected timed goes
  · exact timing_reset timed rfl
  · exact timing_consume _ now connected timed goes

theorem timing_written
    (request : Request) (timely : (Await.write request).Timely session times) :
    (session.written iteration now request).Timing times := by
  cases request with
  | connect => exact timing_readFrame iteration now connected timed timely
  | subscribe =>
    refine timing_readFrame iteration now ?_ timed ?_
    · exact fun _ => timely.1
    · exact Stopwatch.goes_start now timely.2
  | ack delivery => exact timing_report iteration now connected timed timely

theorem timing_received (awaited : Awaited) (frame : Frame)
    (timely : (Await.read awaited).Timely session times) :
    (session.received engine iteration now awaited frame).Timing times := by
  cases awaited with
  | connected =>
    unfold received
    dsimp only
    split_ifs
    · refine timing_ensureSubscribed iteration now timed rfl ?_
      intro subscribed
      have unsubscribed : session.subscribed = false := timely
      rw [unsubscribed] at subscribed
      cases subscribed
    · exact timing_fail iteration now timed
    · exact timing_readFrame iteration now connected timed timely
  | message =>
    unfold received
    dsimp only
    split_ifs
    · exact timing_message iteration now connected timed frame timely
    · exact timing_fail iteration now timed
    · exact timing_readFrame iteration now connected timed timely

end Turns

end Session

namespace Worker

variable {engine : StompEngine} {times : List Measurement}

theorem timing_resume {session : Session} {iteration : Iteration} {now : Nat} {await : Await}
    {event : Event} {turn : Turn} (connected : session.subscribed = true → session.connected = true)
    (timed : Grounded Timed times) (timely : await.Timely session times)
    (completed : ∀ timeoutMicros, event ≠ .deadline timeoutMicros)
    (resumed : resume engine session iteration now await event = some turn) :
    turn.Timing times := by
  unfold resume at resumed
  split at resumed <;> cases resumed
  · exact Session.timing_consume _ now connected timed timely
  · exact Session.timing_writeFrame iteration now (by exact connected) timed timely
  · exact Session.timing_fail iteration now timed
  · exact Session.timing_written iteration now connected timed _ timely
  · exact Session.timing_fail iteration now timed
  · exact Session.timing_received iteration now connected timed _ _ timely
  · exact Session.timing_fail iteration now timed
  · exact absurd rfl (completed _)

theorem timing_of_advance {worker next : Worker} {now : Nat}
    {suspended : Option (Iteration × Await)} {event : Event} {seen : List Seen}
    (timing : Timing worker.session suspended times) (completed : completes worker ⟨now, event⟩)
    (taken : worker.advance engine now suspended event = some (next, seen)) :
    Timing next.session next.suspended (times ++ measured seen) := by
  unfold advance at taken
  split at taken
  · cases completed
  · cases taken
    exact Session.timing_runIteration now timing.connected timing.timed _ (timing.idle rfl)
  · cases taken
  · rename_i iteration await _
    obtain ⟨turn, resumed, same⟩ := Option.map_eq_some_iff.mp taken
    cases same
    apply timing_resume timing.connected timing.timed (timing.suspended iteration await rfl) ?_
      resumed
    rintro timeoutMicros rfl
    exact completed

end Worker

/-- In every run of completed iterations, the first message that is reported behind a
SUBSCRIBE carries a time to the first message, and every other one an interval. -/
theorem timed_measured {engine : StompEngine} {run : Tracked Worker Seen}
    (reached :
      Reaches (Tracked.step (Worker.step engine)) (Tracked.guardOn Worker.completes)
        (.start Worker.new) run) :
    Grounded Timed (measured run.log) := by
  have holds : Timing run.state.session run.state.suspended (measured run.log) := by
    apply Tracked.invariant
      (fun worker log => Timing worker.session worker.suspended (measured log)) ?_ ?_ reached
    · intro worker log action next seen timing completed taken
      rw [measured_append]
      cases running : worker.running with
      | false => simp [Worker.step, running] at taken
      | true =>
        rw [Worker.step, if_pos running] at taken
        exact Worker.timing_of_advance timing completed taken
    · exact
        ⟨fun subscribed => (by cases subscribed), Grounded.nil,
          fun _ subscribed => (by cases subscribed), fun _ _ suspended => (by cases suspended)⟩
  exact holds.timed

end Strobengine.Protocols.Stomp.Consumer
