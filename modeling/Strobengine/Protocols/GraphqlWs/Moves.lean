import Strobengine.Protocols.GraphqlWs.Session

/-!
# What a session does from one await point to the next

Seen on a connection are that it was opened, what was requested on it, which events its reads have
delivered, and which metrics came of it. Of the end of a subscription it is also seen whether it is
of the own one; `decode_frame` does not look at the id.
-/

namespace Strobengine.Protocols.GraphqlWs

open Foundations Metrics Rust

inductive Seen where
  | opened
  | sent (request : Request)
  | read (event : ReadEvent) (own : Bool := true)
  | returned (ending : Ending) (metric : RequestMetric)
  deriving DecidableEq, Repr

def Await.request? : Await → Option Request
  | .send request => some request
  | _ => none

def Output.seen (place : Option (Iteration × Await)) : Output → Option Seen
  | .opened => some .opened
  | .sent _ => place.bind (fun suspended => suspended.2.request?.map Seen.sent)
  | .reading => none
  | .returned ending metric => some (.returned ending metric)

def ReadEvent.ends : ReadEvent → Bool
  | .error _ _ => true
  | .complete => true
  | _ => false

/-- The text is a frame with the id of the subscription. -/
def Message.isOwn (json : JsonCodec) : Message → Bool
  | .text content =>
    match json.fromStr content with
    | .ok value => (value.get "id").bind Json.asStr = some subscriptionId
    | .error _ => false
  | _ => false

def Message.delivered (json : JsonCodec) (message : Message) : List Seen :=
  match message.received json with
  | .event event => [.read event (!event.ends || message.isOwn json)]
  | _ => []

def delivered (engine : GraphqlWsEngine) : Option (Iteration × Await) → WorkerEvent → List Seen
  | some (_, .read _ _), .message message => message.delivered engine.json
  | _, _ => []

theorem delivered_eq_nil {engine : GraphqlWsEngine} (place : Option (Iteration × Await))
    {event : WorkerEvent} (silent : ∀ message, event ≠ .message message) :
    delivered engine place event = [] := by
  unfold delivered
  split
  · rename_i message
    exact absurd rfl (silent message)
  · rfl

def Turn.seen (turn : Turn) : List Seen :=
  turn.emitted.filterMap (Output.seen turn.suspended)

def Worker.observed (engine : GraphqlWsEngine) : Emitting Worker WorkerAction Seen
  | worker, action =>
    (worker.step engine action).map (fun result =>
      (result.1,
        delivered engine worker.suspended action.event ++
          result.2.filterMap (Output.seen result.1.suspended)))

def Request.Fits (session : GraphqlWsSession) : Request → Prop
  | .init => session.initialized = false
  | .corrupted => session.initialized = true
  | .subscribe => session.initialized = true ∧ session.subscribed = false

def Purpose.Fits (session : GraphqlWsSession) : Purpose → Prop
  | .init => session.initialized = false
  | .corrupted => session.initialized = true
  | .subscription _ => session.initialized = true ∧ session.subscribed = true

def Await.Fits (session : GraphqlWsSession) : Await → Prop
  | .sleep => True
  | .connect => session.stream = false
  | .send request => session.stream = true ∧ request.Fits session
  | .read purpose _ => session.stream = true ∧ purpose.Fits session
  | .pong purpose _ => session.stream = true ∧ purpose.Fits session

def handshaking : Option (Iteration × Await) → Bool
  | some (_, .send .init) => true
  | some (_, .read .init _) => true
  | some (_, .pong .init _) => true
  | _ => false

def subscribing : Option (Iteration × Await) → Bool
  | some (_, .send .subscribe) => true
  | _ => false

/-- How a step goes on from a session, seen from the place where it began: it returns with
the session as it is or reset, or it is suspended again. None of these metrics reports an
event of a subscription. -/
inductive Continues (place : Option (Iteration × Await)) (session : GraphqlWsSession) :
    GraphqlWsSession → Option (Iteration × Await) → List Seen → Prop where
  | returns (ending : Ending) (metric : RequestMetric)
      (settled : session.initialized = true ∨ place = none)
      (silent : ∀ bytes, ending = .onRead (.next bytes) → metric.protocol = none) :
      Continues place session session none [.returned ending metric]
  | resets (ending : Ending) (metric : RequestMetric)
      (silent : ∀ bytes, ending = .onRead (.next bytes) → metric.protocol = none) :
      Continues place session {} none [.returned ending metric]
  | suspends (iteration : Iteration) (await : Await) (fits : await.Fits session)
      (quiet : await.request? = none) (rested : await = .sleep → place = none) :
      Continues place session session (some (iteration, await)) []
  | sends (iteration : Iteration) (request : Request) (fits : (Await.send request).Fits session)
      (rested : request = .init → handshaking place = false) :
      Continues place session session (some (iteration, .send request)) [.sent request]

/-- What ends a wait, as far as the session and the observer notice it. -/
inductive Enters (engine : GraphqlWsEngine) (action : WorkerAction)
    (session : GraphqlWsSession) :
    Option (Iteration × Await) → GraphqlWsSession → List Seen → Prop where
  | unchanged {place : Option (Iteration × Await)} (idle : subscribing place = false) :
      Enters engine action session place session []
  | opened {iteration : Iteration} :
      Enters engine action session (some (iteration, .connect))
        { session with stream := true } [.opened]
  | acknowledged {iteration : Iteration} {deadline : Nat} :
      Enters engine action session (some (iteration, .read .init deadline))
        { session with initialized := true } [.read .ack]
  | subscribed {iteration : Iteration} :
      Enters engine action session (some (iteration, .send .subscribe))
        { session with
          subscribed := true
          subscribeSentAt := some action.now
          lastMessageAt := none
          ttfmRecorded := false } []
  | ended {iteration : Iteration} {operations : Option Nat} {deadline : Nat}
      {event : ReadEvent} {own : Bool}
      (arrived :
        delivered engine (some (iteration, .read (.subscription operations) deadline))
          action.event = [.read event own])
      (ends : event.ends = true) :
      Enters engine action session (some (iteration, .read (.subscription operations) deadline))
        { session with subscribed := false } [.read event own]
  | delivered {iteration : Iteration} {purpose : Purpose} {deadline : Nat}
      {event : ReadEvent} {own : Bool}
      (arrived :
        delivered engine (some (iteration, .read purpose deadline)) action.event =
          [.read event own])
      (ends : event.ends = true → purpose = .init ∨ purpose = .corrupted) :
      Enters engine action session (some (iteration, .read purpose deadline)) session
        [.read event own]

inductive Move (engine : GraphqlWsEngine) (action : WorkerAction)
    (session : GraphqlWsSession) (place : Option (Iteration × Await)) :
    GraphqlWsSession → Option (Iteration × Await) → List Seen → Prop where
  | continues {entered next : GraphqlWsSession} {place' : Option (Iteration × Await)}
      {first rest : List Seen} (enters : Enters engine action session place entered first)
      (continues : Continues place entered next place' rest) :
      Move engine action session place next place' (first ++ rest)
  | reports (iteration : Iteration) (operations : Option Nat) (deadline bytes : Nat)
      (reading : place = some (iteration, .read (.subscription operations) deadline)) :
      Move engine action session place
        { session with ttfmRecorded := true, lastMessageAt := some action.now } none
        [.read (.next bytes),
          .returned (.onRead (.next bytes))
            (iteration.success action.now bytes
              (some
                { operations
                  ttfmUs :=
                    if session.ttfmRecorded then none
                    else session.subscribeSentAt.map (action.now - ·)
                  intervalUs := session.lastMessageAt.map (action.now - ·) }))]
  | fails (metric : RequestMetric) :
      Move engine action session place {} none [.returned .onFailure metric]
  | drops (reading : Bool) (metric : RequestMetric) (late : action.event = .deadline) :
      Move engine action session place session none
        [.returned (.onDeadline reading) metric]

structure GraphqlWsSession.Coherent (session : GraphqlWsSession) : Prop where
  closed : session.stream = false → session = {}
  subscribed : session.subscribed = true → session.initialized = true

structure Worker.Fitting (worker : Worker) : Prop where
  persistent : worker.persistent = true
  coherent : worker.session.Coherent
  place : ∀ iteration await, worker.suspended = some (iteration, await) → await.Fits worker.session

def Turn.Continues (turn : Turn) (place : Option (Iteration × Await))
    (session : GraphqlWsSession) : Prop :=
  GraphqlWs.Continues place session turn.session turn.suspended turn.seen

namespace GraphqlWsSession

section Turns

variable (engine : GraphqlWsEngine) (session : GraphqlWsSession)
  (place : Option (Iteration × Await)) (iteration : Iteration) (now : Nat)

theorem continues_finish {ending : Ending} {metric : RequestMetric}
    (settled : session.initialized = true ∨ place = none)
    (silent : ∀ bytes, ending = .onRead (.next bytes) → metric.protocol = none) :
    (session.finish ending metric).Continues place session :=
  .returns ending metric settled silent

theorem continues_reset (ending : Ending) :
    (session.reset.finish ending (iteration.error now)).Continues place session :=
  .resets ending _ (fun _ _ => rfl)

theorem continues_suspend {await : Await} {emitted : List Output}
    (fits : await.Fits session) (quiet : await.request? = none)
    (rested : await = .sleep → place = none)
    (unseen : emitted.filterMap (Output.seen (some (iteration, await))) = []) :
    (session.suspend iteration await emitted).Continues place session := by
  have continued := Continues.suspends iteration await fits quiet rested
  rw [← unseen] at continued
  exact continued

variable {purpose : Purpose}

theorem continues_timedOut (fits : purpose.Fits session) :
    (session.timedOut iteration now purpose).Continues place session := by
  cases purpose with
  | init => exact session.continues_reset place iteration now _
  | corrupted => exact session.continues_finish place (Or.inl fits) (fun _ _ => rfl)
  | subscription => exact session.continues_finish place (Or.inl fits.1) (fun _ _ => rfl)

theorem continues_closed (fits : purpose.Fits session) :
    (session.closed iteration now purpose).Continues place session := by
  cases purpose with
  | init | subscription => exact session.continues_reset place iteration now _
  | corrupted => exact session.continues_finish place (Or.inl fits) (fun _ _ => rfl)

theorem continues_nextFrame (deadline : Nat) (fits : purpose.Fits session) :
    (session.nextFrame iteration now purpose deadline).Continues place session := by
  unfold nextFrame
  split
  · exact session.continues_timedOut place iteration now fits
  · split
    · rename_i stream
      exact session.continues_suspend place iteration ⟨stream, fits⟩ rfl
        (fun rests => by cases rests) rfl
    · exact session.continues_closed place iteration now fits

theorem continues_startRead (fits : purpose.Fits session) :
    (session.startRead engine iteration now purpose).Continues place session :=
  session.continues_nextFrame place iteration now _ fits

theorem continues_send {request : Request} (message : Message)
    (fits : request.Fits session) (rested : request = .init → handshaking place = false) :
    (session.send iteration now request message).Continues place session := by
  unfold send
  split
  · rename_i stream
    exact Continues.sends iteration request ⟨stream, fits⟩ rested
  · exact session.continues_reset place iteration now _

theorem continues_exchange (initialized : session.initialized = true) :
    (session.exchange engine iteration now).Continues place session := by
  unfold exchange
  split
  · exact session.continues_send place iteration now _ initialized (fun init => by cases init)
  · split
    · rename_i subscribed
      exact session.continues_startRead engine place iteration now ⟨initialized, subscribed⟩
    · rename_i unsubscribed
      split
      · exact session.continues_finish place (Or.inl initialized) (fun _ _ => rfl)
      · exact session.continues_send place iteration now _
          ⟨initialized, by simpa using unsubscribed⟩ (fun init => by cases init)

theorem continues_ensureInitialized (rested : handshaking place = false) :
    (session.ensureInitialized engine iteration now).Continues place session := by
  unfold ensureInitialized
  split
  · rename_i initialized
    exact session.continues_exchange engine place iteration now initialized
  · rename_i uninitialized
    have fits : Request.init.Fits session := eq_false_of_ne_true uninitialized
    exact session.continues_send place iteration now connectionInit fits (fun _ => rested)

theorem continues_ensureConnected (rested : handshaking place = false) :
    (session.ensureConnected engine iteration now).Continues place session := by
  unfold ensureConnected
  split
  · exact session.continues_ensureInitialized engine place iteration now rested
  · rename_i closed
    have fits : Await.connect.Fits session := eq_false_of_ne_true closed
    exact session.continues_suspend place iteration fits rfl (fun rests => by cases rests) rfl

theorem continues_runIteration :
    (session.runIteration engine iteration now).Continues none session := by
  unfold runIteration
  split
  · exact session.continues_finish none (Or.inr rfl) (fun _ _ => rfl)
  · exact session.continues_suspend none iteration True.intro rfl (fun _ => rfl) rfl
  · exact session.continues_ensureConnected engine none iteration now rfl

end Turns

end GraphqlWsSession

def Turn.Moves (turn : Turn) (engine : GraphqlWsEngine) (action : WorkerAction)
    (session : GraphqlWsSession) (place : Option (Iteration × Await)) : Prop :=
  Move engine action session place turn.session turn.suspended
    (delivered engine place action.event ++ turn.seen)

section Steps

variable {engine : GraphqlWsEngine} {session : GraphqlWsSession} {action : WorkerAction}
  {iteration : Iteration} {turn : Turn}

theorem Turn.Continues.moves {place : Option (Iteration × Await)}
    (continued : turn.Continues place session) (idle : subscribing place = false)
    (unread : delivered engine place action.event = []) :
    turn.Moves engine action session place := by
  have entered : Enters engine action session place session [] := .unchanged idle
  unfold Turn.Moves
  rw [unread]
  exact .continues entered continued

variable {purpose : Purpose} {deadline : Nat}

theorem Turn.Continues.moves_delivered {event : ReadEvent} {own : Bool}
    (continued : turn.Continues (some (iteration, .read purpose deadline)) session)
    (arrived :
      delivered engine (some (iteration, .read purpose deadline)) action.event =
        [.read event own])
    (ends : event.ends = true → purpose = .init ∨ purpose = .corrupted) :
    turn.Moves engine action session (some (iteration, .read purpose deadline)) := by
  unfold Turn.Moves
  rw [arrived]
  exact .continues (.delivered arrived ends) continued

theorem moves_connected (unread : delivered engine (some (iteration, .connect)) action.event = []) :
    (session.connected engine iteration action.now).Moves engine action session
      (some (iteration, .connect)) := by
  have continued :=
    GraphqlWsSession.continues_ensureInitialized engine { session with stream := true }
      (some (iteration, .connect)) iteration action.now rfl
  unfold Turn.Moves
  rw [unread, List.nil_append]
  exact .continues .opened continued

theorem moves_sent {request : Request} (fits : request.Fits session)
    (unread : delivered engine (some (iteration, .send request)) action.event = []) :
    (session.sent engine iteration action.now request).Moves engine action session
      (some (iteration, .send request)) := by
  cases request with
  | init | corrupted =>
    exact Turn.Continues.moves
      (session.continues_startRead engine _ iteration action.now fits) rfl unread
  | subscribe =>
    have entered : Enters engine action session (some (iteration, .send .subscribe))
        { session with
          subscribed := true
          subscribeSentAt := some action.now
          lastMessageAt := none
          ttfmRecorded := false } [] :=
      .subscribed
    unfold Turn.Moves
    rw [unread]
    refine .continues entered ?_
    exact GraphqlWsSession.continues_startRead engine _ _ iteration action.now ⟨fits.1, rfl⟩

theorem moves_onEvent {event : ReadEvent} {own : Bool} (fits : purpose.Fits session)
    (arrived :
      delivered engine (some (iteration, .read purpose deadline)) action.event =
        [.read event (!event.ends || own)]) :
    (session.onEvent engine iteration action.now deadline purpose event).Moves engine action
      session (some (iteration, .read purpose deadline)) := by
  unfold GraphqlWsSession.onEvent
  split
  · exact (session.continues_timedOut _ iteration action.now fits).moves_delivered arrived
      (fun ends => by cases ends)
  · exact (session.continues_closed _ iteration action.now fits).moves_delivered arrived
      (fun ends => by cases ends)
  · unfold Turn.Moves
    rw [arrived]
    refine .continues .acknowledged ?_
    exact GraphqlWsSession.continues_exchange engine _ _ iteration action.now rfl
  · exact (session.continues_reset _ iteration action.now _).moves_delivered arrived
      (fun _ => Or.inl rfl)
  · exact (session.continues_nextFrame _ iteration action.now deadline fits).moves_delivered
      arrived (fun _ => Or.inl rfl)
  · exact (session.continues_finish _ (Or.inl fits) (fun _ _ => rfl)).moves_delivered arrived
      (fun _ => Or.inr rfl)
  · exact (session.continues_finish _ (Or.inl fits) (fun _ _ => rfl)).moves_delivered arrived
      (fun _ => Or.inr rfl)
  · rename_i operations bytes
    unfold Turn.Moves
    rw [arrived]
    exact .reports iteration operations deadline bytes rfl
  · -- the subscription has ended, with errors or without
    unfold Turn.Moves
    rw [arrived]
    refine .continues (.ended arrived rfl) ?_
    exact GraphqlWsSession.continues_finish _ _ (Or.inl fits.1) (fun _ next => by cases next)
  · unfold Turn.Moves
    rw [arrived]
    refine .continues (.ended arrived rfl) ?_
    exact GraphqlWsSession.continues_finish _ _ (Or.inl fits.1) (fun _ next => by cases next)
  · exact (session.continues_finish _ (Or.inl fits.1)
      (fun _ next => by cases next)).moves_delivered arrived (fun ends => by cases ends)
  · exact (session.continues_reset _ iteration action.now _).moves_delivered arrived
      (fun ends => by cases ends)

theorem moves_received {message : Message}
    (stream : session.stream = true) (fits : purpose.Fits session)
    (event : action.event = .message message) :
    (session.received engine iteration action.now purpose deadline message).Moves engine action
      session (some (iteration, .read purpose deadline)) := by
  have read : delivered engine (some (iteration, .read purpose deadline)) action.event =
      message.delivered engine.json := by
    rw [event]
    rfl
  unfold GraphqlWsSession.received
  cases arrived : message.received engine.json with
  | event => exact moves_onEvent fits (by rw [read, Message.delivered, arrived])
  | answered =>
    have suits : (Await.pong purpose deadline).Fits session := ⟨stream, fits⟩
    simp only [stream, if_true]
    exact (session.continues_suspend _ iteration suits rfl
      (fun rests => by cases rests) rfl).moves rfl (by rw [read, Message.delivered, arrived])
  | skipped =>
    exact (session.continues_nextFrame _ iteration action.now deadline fits).moves rfl
      (by rw [read, Message.delivered, arrived])

theorem moves_deadline (place : Option (Iteration × Await)) (reading : Bool)
    (late : action.event = .deadline) :
    (session.finish (.onDeadline reading)
      (RequestMetric.error engine.timeout none)).Moves engine action session place := by
  have unread : delivered engine place action.event = [] := delivered_eq_nil place (by simp [late])
  unfold Turn.Moves
  rw [unread]
  exact .drops reading _ late

theorem moves_of_resume {await : Await} (fits : await.Fits session)
    (resumed : Worker.resume engine session iteration action.now await action.event = some turn) :
    turn.Moves engine action session (some (iteration, await)) := by
  obtain ⟨now, event⟩ := action
  dsimp only at resumed
  unfold Worker.resume at resumed
  split at resumed
  case h_8 purpose deadline =>
    split at resumed <;> cases resumed
    exact (session.continues_timedOut _ iteration now fits.2).moves rfl rfl
  all_goals cases resumed
  · exact (session.continues_ensureConnected engine _ iteration now rfl).moves rfl rfl
  · exact moves_connected rfl
  · exact (session.continues_reset _ iteration now _).moves rfl rfl
  · exact moves_sent fits.2 rfl
  · exact .fails _
  · exact moves_received fits.1 fits.2 rfl
  · exact (session.continues_closed _ iteration now fits.2).moves rfl rfl
  · exact (session.continues_nextFrame _ iteration now _ fits.2).moves rfl rfl
  · exact (session.continues_nextFrame _ iteration now _ fits.2).moves rfl rfl
  · exact moves_deadline _ true rfl
  · exact moves_deadline _ false rfl


end Steps

namespace Worker

variable {engine : GraphqlWsEngine} {worker next : Worker} {action : WorkerAction}
  {seen : List Seen}

theorem take_of_persistent (persistent : worker.persistent = true) (turn : Turn) :
    worker.take turn =
      ({ worker with session := turn.session, suspended := turn.suspended }, turn.emitted) := by
  simp [take, persistent]

structure Moved (engine : GraphqlWsEngine) (worker : Worker) (action : WorkerAction)
    (next : Worker) (seen : List Seen) : Prop where
  persistent : next.persistent = true
  running : next.running = true
  move : Move engine action worker.session worker.suspended next.session next.suspended seen

theorem Moved.of_turn {turn : Turn}
    (running : worker.running = true) (persistent : worker.persistent = true)
    (moves : turn.Moves engine action worker.session worker.suspended)
    (result :
      ((worker.take turn).1,
        delivered engine worker.suspended action.event ++
          (worker.take turn).2.filterMap (Output.seen (worker.take turn).1.suspended)) =
        (next, seen)) :
    Moved engine worker action next seen := by
  rw [take_of_persistent persistent] at result
  cases result
  exact ⟨persistent, running, moves⟩

theorem running_of_observed (taken : worker.observed engine action = some (next, seen)) :
    worker.running = true := by
  cases running : worker.running with
  | false => simp [observed, step, running] at taken
  | true => rfl

theorem moved_of_step (fitting : worker.Fitting)
    (taken : worker.observed engine action = some (next, seen)) :
    (action.event = .cancelled ∧ seen = [] ∧
        next = { worker with suspended := none, running := false }) ∨
      Moved engine worker action next seen := by
  have running : worker.running = true := running_of_observed taken
  obtain ⟨result, stepped, shown⟩ := Option.map_eq_some_iff.mp taken
  rw [step, if_pos running] at stepped
  unfold advance at stepped
  split at stepped
  · rename_i cancelled
    cases stepped
    rw [delivered_eq_nil worker.suspended (by simp [cancelled])] at shown
    cases shown
    exact Or.inl ⟨cancelled, rfl, rfl⟩
  · rename_i fault _ place _
    cases stepped
    refine Or.inr (Moved.of_turn running fitting.persistent ?_ shown)
    rw [place]
    exact (worker.session.continues_runIteration engine _ action.now).moves rfl rfl
  · cases stepped
  · rename_i iteration await place _
    obtain ⟨turn, resumed, rfl⟩ := Option.map_eq_some_iff.mp stepped
    refine Or.inr (Moved.of_turn running fitting.persistent ?_ shown)
    rw [place]
    exact moves_of_resume (fitting.place iteration await place) resumed

end Worker

theorem GraphqlWsSession.Coherent.empty : GraphqlWsSession.Coherent {} :=
  ⟨fun _ => rfl, fun subscribed => by cases subscribed⟩

theorem GraphqlWsSession.Coherent.of_stream {session : GraphqlWsSession}
    (stream : session.stream = true)
    (subscribed : session.subscribed = true → session.initialized = true) :
    session.Coherent := by
  refine ⟨?_, subscribed⟩
  intro closed
  rw [stream] at closed
  cases closed

section Fitting

variable {engine : GraphqlWsEngine} {action : WorkerAction}
  {session entered next : GraphqlWsSession}
  {place place' : Option (Iteration × Await)} {seen : List Seen}

theorem Enters.coherent (enters : Enters engine action session place entered seen)
    (coherent : session.Coherent)
    (fits : ∀ iteration await, place = some (iteration, await) → await.Fits session) :
    entered.Coherent := by
  cases enters with
  | unchanged | delivered => exact coherent
  | opened => exact .of_stream rfl coherent.subscribed
  | acknowledged =>
    have suits : Await.Fits session _ := fits _ _ rfl
    exact .of_stream suits.1 (fun _ => rfl)
  | subscribed =>
    have suits : Await.Fits session _ := fits _ _ rfl
    exact .of_stream suits.1 (fun _ => suits.2.1)
  | ended =>
    have suits : Await.Fits session _ := fits _ _ rfl
    exact .of_stream suits.1 (fun subscribed => by cases subscribed)

theorem Continues.coherent
    (continues : Continues place session next place' seen) (coherent : session.Coherent) :
    next.Coherent := by
  cases continues with
  | resets => exact .empty
  | _ => exact coherent

theorem Continues.fits (continues : Continues place session next place' seen)
    (iteration : Iteration) (await : Await) (suspended : place' = some (iteration, await)) :
    await.Fits next := by
  cases continues with
  | returns | resets => cases suspended
  | suspends iteration await fits =>
    cases suspended
    exact fits
  | sends iteration request fits =>
    cases suspended
    exact fits

end Fitting

namespace Worker

variable {engine : GraphqlWsEngine} {worker next : Worker} {action : WorkerAction}
  {seen : List Seen}

theorem fitting_new : (Worker.new true).Fitting :=
  ⟨rfl, .empty, fun _ _ suspended => by cases suspended⟩

theorem Fitting.of_step (fitting : worker.Fitting)
    (taken : worker.observed engine action = some (next, seen)) : next.Fitting := by
  rcases moved_of_step fitting taken with ⟨_, _, rfl⟩ | moved
  · exact ⟨fitting.persistent, fitting.coherent, fun _ _ suspended => by cases suspended⟩
  · obtain ⟨persistent, running, move⟩ := moved
    obtain ⟨_, session, suspended, _⟩ := next
    cases move with
    | continues enters continues =>
      exact
        ⟨persistent, continues.coherent (enters.coherent fitting.coherent fitting.place),
          continues.fits⟩
    | reports iteration operations deadline bytes reading =>
      have suits : Await.Fits worker.session _ := fitting.place _ _ reading
      exact
        ⟨persistent, .of_stream suits.1 fitting.coherent.subscribed,
          fun _ _ suspended => by cases suspended⟩
    | fails => exact ⟨persistent, .empty, fun _ _ suspended => by cases suspended⟩
    | drops => exact ⟨persistent, fitting.coherent, fun _ _ suspended => by cases suspended⟩

end Worker

end Strobengine.Protocols.GraphqlWs
