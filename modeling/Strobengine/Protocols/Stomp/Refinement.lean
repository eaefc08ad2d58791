import Strobengine.Protocols.Stomp.Consumer
import Strobengine.Protocols.Stomp.Receipts

/-!
# Consumers on the wire

The consumer of whole frames abstracts from the worker that reads and writes bytes: it receives
the frames that the worker's decoder finds one by one, and no byte of a write is a step of it.
-/

namespace Strobengine.Protocols.Stomp

open Foundations Metrics

def Consumer.Request.onWire : Consumer.Request → Stomp.Request
  | .connect => .connect
  | .subscribe => .subscribe
  | .ack _ => .ack

def Consumer.Awaited.onWire : Consumer.Awaited → Expected
  | .connected => .connected
  | .message => .message

def Consumer.Await.onWire : Consumer.Await → Stomp.Await
  | .sleep => .sleep
  | .tcpConnect => .tcpConnect
  | .write request => .write request.onWire
  | .read awaited => .read awaited.onWire

def Await.usesStream : Await → Bool
  | .write _ => true
  | .read _ => true
  | _ => false

/-- What the session of a consumer keeps of a session on the wire. -/
structure StompSession.Kept (session : StompSession) (kept : Consumer.Session) : Prop where
  stream : kept.stream = session.stream.isSome
  connected : kept.connected = session.connected
  subscribed : kept.subscribed = session.subscribed
  opened : session.connected = true → session.stream.isSome = true

theorem StompSession.Kept.moved {session : StompSession} {kept : Consumer.Session}
    {before : Connection} (same : session.Kept kept) (opened : session.stream = some before)
    (connection : Connection) :
    StompSession.Kept { session with stream := some connection } kept :=
  { same with stream := same.stream.trans (by rw [opened]; rfl), opened := fun _ => rfl }

/-- A consumer stands where the worker on the wire does. Once it is cancelled it takes no more
steps, while the worker still disconnects. -/
inductive Worker.Kept : Worker → Consumer.Worker → Prop where
  | idle {session : StompSession} {kept : Consumer.Session} :
      session.Kept kept → Kept ⟨session, .idle⟩ ⟨kept, none, true⟩
  | iterating {session : StompSession} {kept : Consumer.Session}
      (iteration : Consumer.Iteration) (await : Consumer.Await) :
      session.Kept kept → (await.onWire.usesStream = true → session.stream.isSome = true) →
        Kept ⟨session, .iterating iteration.chaosFault await.onWire⟩
          ⟨kept, some (iteration, await), true⟩
  | stopped {worker : Worker} (kept : Consumer.Session) :
      worker.phase = .disconnecting ∨ worker.phase = .ended → Kept worker ⟨kept, none, false⟩

theorem Worker.Kept.of_write {worker next : Worker} {consumer : Consumer.Worker} {count : Nat}
    (stands : worker.Kept consumer) (wrote : worker.write count = some next) :
    next.Kept consumer := by
  unfold Worker.write at wrote
  split at wrote
  · cases wrote
  · rename_i connection opened
    split at wrote
    · cases wrote
    · rename_i advanced _
      cases wrote
      cases stands with
      | idle same => exact .idle (same.moved opened advanced)
      | iterating iteration await same =>
        exact .iterating iteration await (same.moved opened advanced) (fun _ => rfl)
      | stopped kept stopping => exact .stopped kept stopping

def Consumer.Turn.taken (turn : Consumer.Turn) : Consumer.Worker :=
  { session := turn.session, suspended := turn.suspended, running := true }

section Following

variable (engine : StompEngine)

/-- The consumer can get where the worker is. -/
def Follows (consumer : Consumer.Worker) (worker : Worker) : Prop :=
  ∀ log,
    ∃ run,
      Reaches (Tracked.step (Consumer.Worker.step engine)) unguarded ⟨consumer, log⟩ run ∧
        worker.Kept run.state

variable {engine} {session : StompSession} {kept : Consumer.Session}
  {iteration : Consumer.Iteration} {now : Nat} {worker : Worker}

theorem Worker.Kept.follows {consumer : Consumer.Worker} (stands : worker.Kept consumer) :
    Follows engine consumer worker :=
  fun log => ⟨⟨consumer, log⟩, .refl _, stands⟩

theorem Follows.of_advance {suspended : Option (Consumer.Iteration × Consumer.Await)}
    {later : Consumer.Worker} {seen : List Consumer.Seen}
    (follows : Follows engine later worker) (now : Nat) (event : Consumer.Event)
    (advanced :
      Consumer.Worker.advance engine ⟨kept, suspended, true⟩ now suspended event =
        some (later, seen)) :
    Follows engine ⟨kept, suspended, true⟩ worker := by
  intro log
  obtain ⟨run, reached, stands⟩ := follows (log ++ seen)
  have taken :
      Tracked.step (Consumer.Worker.step engine) ⟨⟨kept, suspended, true⟩, log⟩ ⟨now, event⟩ =
        some ⟨later, log ++ seen⟩ :=
    Tracked.step_eq_some_iff.mpr ⟨seen, advanced, rfl⟩
  exact ⟨run, reached.head _ True.intro taken, stands⟩

theorem follows_finish (same : session.Kept kept) (metric : RequestMetric) :
    Follows engine (kept.finish metric).taken session.finish :=
  Worker.Kept.follows (.idle same)

theorem follows_fail (metric : RequestMetric) :
    Follows engine (kept.reset.finish metric).taken session.fail :=
  have same : session.reset.Kept kept.reset := ⟨rfl, rfl, rfl, fun connected => by cases connected⟩
  follows_finish same metric

theorem follows_writeFrame
    (same : session.Kept kept) (request : Consumer.Request) (frame : WireFrame)
    (seen : List Consumer.Seen) :
    Follows engine (kept.writeFrame iteration now request seen).taken
      (session.writeFrame iteration.chaosFault request.onWire frame) := by
  unfold Consumer.Session.writeFrame StompSession.writeFrame
  rw [same.stream]
  cases opened : session.stream with
  | none => exact follows_fail _
  | some connection =>
    have begun := same.moved opened (connection.startWrite frame)
    exact Worker.Kept.follows (.iterating iteration (.write request) begun (fun _ => rfl))

theorem follows_opened (same : session.Kept kept) :
    Follows engine (kept.opened iteration now).taken (session.opened iteration.chaosFault) := by
  refine follows_writeFrame ?_ .connect _ []
  exact { same with stream := rfl, opened := fun _ => rfl }

theorem follows_acknowledge (same : session.Kept kept) (frame : Frame) :
    Follows engine (kept.message engine iteration now frame).taken
      (session.acknowledge engine iteration.chaosFault frame) := by
  unfold Consumer.Session.message StompSession.acknowledge Consumer.ackId
  have noted :
      session.Kept { kept with sawFirstMessage := true, lastMessageAt := some now } :=
    { same with }
  cases engine.ack with
  | auto => exact follows_finish noted _
  | client | clientIndividual =>
    cases (frame.header "ack").or (frame.header "message-id") with
    | none => exact follows_finish noted _
    | some id => exact follows_writeFrame noted (.ack _) _ []

theorem follows_shutdown (kept : Consumer.Session) :
    Follows engine ⟨kept, none, false⟩ session.shutdown := by
  refine Worker.Kept.follows (.stopped kept ?_)
  unfold StompSession.shutdown
  split
  · exact Or.inl rfl
  · exact Or.inr rfl

/-! ## Reading frames -/

theorem received_eq (awaited : Consumer.Awaited) (frame : Frame) :
    kept.received engine iteration now awaited frame =
      if awaited.onWire.answeredBy frame = true then
        match awaited with
        | .connected => kept.connectedNow iteration now
        | .message => kept.message engine iteration now frame
      else if frame.command = "ERROR" then
        kept.fail iteration now
      else
        kept.readFrame iteration now awaited := by
  cases awaited with
  | connected | message =>
    simp only [Consumer.Awaited.onWire, Expected.answeredBy, Expected.command, Bool.and_true,
      beq_iff_eq, Consumer.Session.received]

theorem taken_readFrame (same : session.Kept kept) (isOpen : session.stream.isSome = true)
    (iteration : Consumer.Iteration) (now : Nat) (awaited : Consumer.Awaited) :
    (kept.readFrame iteration now awaited).taken =
      ⟨kept, some (iteration, .read awaited), true⟩ := by
  rw [Consumer.Session.readFrame, if_pos (same.stream.trans isOpen)]
  rfl

section Await

variable {awaited : Consumer.Awaited} {resume : StompSession → Frame → Worker}
  (same : session.Kept kept) (isOpen : session.stream.isSome = true)
include same isOpen

theorem follows_await_of_no_frame {result : Except CodecError (Option Frame)} {later : Decoder}
    (called : session.decoder.nextFrame = (result, later))
    (nothing : ∀ frame, result ≠ .ok (some frame)) :
    Follows engine ⟨kept, some (iteration, .read awaited), true⟩
      (session.await iteration.chaosFault awaited.onWire resume) := by
  unfold StompSession.await
  rcases awaitFrame_of_no_frame called nothing with ends | ends
  · rw [ends]
    exact Follows.of_advance (follows_fail _) 0 .readFailed rfl
  · rw [ends]
    dsimp only
    split
    · rename_i closed
      rw [closed] at isOpen
      cases isOpen
    · exact Worker.Kept.follows (.iterating iteration (.read awaited) { same with } fun _ => isOpen)

/-- The decoder is emptied frame by frame; each frame is one that the consumer receives. -/
theorem follows_await
    (resumed :
      ∀ decoder frame, awaited.onWire.answeredBy frame = true →
        Follows engine (kept.received engine iteration now awaited frame).taken
          (resume { session with decoder } frame)) :
    Follows engine (kept.readFrame iteration now awaited).taken
      (session.await iteration.chaosFault awaited.onWire resume) := by
  have reading := taken_readFrame same isOpen iteration now awaited
  induction size : session.decoder.unread.length using Nat.strongRecOn generalizing session with
  | ind size ih =>
    rcases called : session.decoder.nextFrame with ⟨result, later⟩
    have left : StompSession.Kept { session with decoder := later } kept := { same with }
    by_cases found : ∃ frame, result = .ok (some frame)
    · obtain ⟨frame, rfl⟩ := found
      have delivered {worker : Worker}
          (follows :
            Follows engine (kept.received engine iteration now awaited frame).taken worker) :
          Follows engine (kept.readFrame iteration now awaited).taken worker := by
        rw [reading]
        exact Follows.of_advance follows now (.received frame) rfl
      rw [StompSession.await, awaitFrame_of_frame called]
      by_cases answered : awaited.onWire.answeredBy frame = true
      · rw [if_pos answered]
        exact delivered (resumed later frame answered)
      · rw [received_eq, if_neg answered] at delivered
        rw [if_neg answered]
        by_cases refused : frame.command = "ERROR"
        · rw [if_pos refused] at delivered ⊢
          exact delivered (follows_fail _)
        · rw [if_neg refused] at delivered ⊢
          have shorter := Decoder.unread_nextFrame_lt called
          exact delivered (ih later.unread.length (size ▸ shorter) left isOpen resumed rfl)
    · rw [reading]
      exact follows_await_of_no_frame same isOpen called (not_exists.mp found)

end Await

theorem follows_drainMessage
    (same : session.Kept kept) (isOpen : session.stream.isSome = true) :
    Follows engine (kept.readFrame iteration now .message).taken
      (session.drainMessage engine iteration.chaosFault) := by
  apply follows_await same isOpen
  intro decoder frame answered
  rw [received_eq, if_pos answered]
  refine follows_acknowledge ?_ frame
  exact { same with }

section Consuming

variable (consuming : engine.mode = .consume)
include consuming

theorem follows_exchange (same : session.Kept kept) (isOpen : session.stream.isSome = true) :
    Follows engine (kept.ensureSubscribed iteration now).taken
      (session.exchange engine iteration.chaosFault) := by
  unfold Consumer.Session.ensureSubscribed StompSession.exchange
  rw [consuming, same.subscribed]
  dsimp only
  split
  · exact follows_drainMessage same isOpen
  · exact follows_writeFrame same .subscribe _ _

theorem follows_connected (same : session.Kept kept) (isOpen : session.stream.isSome = true) :
    Follows engine (kept.readFrame iteration now .connected).taken
      (session.await iteration.chaosFault .connected
        (StompSession.resume engine iteration.chaosFault .connected)) := by
  apply follows_await same isOpen
  intro decoder frame answered
  rw [received_eq, if_pos answered]
  refine follows_exchange consuming ?_ isOpen
  exact { same with connected := rfl, opened := fun _ => isOpen }

theorem follows_afterWrite (same : session.Kept kept) (isOpen : session.stream.isSome = true)
    (request : Consumer.Request) :
    Follows engine (kept.written iteration now request).taken
      (session.afterWrite engine iteration.chaosFault request.onWire) := by
  cases request with
  | connect => exact follows_connected consuming same isOpen
  | subscribe =>
    refine follows_drainMessage ?_ isOpen
    exact { same with subscribed := rfl }
  | ack delivery => exact follows_finish same _

theorem follows_ensureConnected (same : session.Kept kept) :
    Follows engine (kept.consume iteration now).taken
      (session.ensureConnected engine iteration.chaosFault) := by
  unfold Consumer.Session.consume StompSession.ensureConnected
  rw [same.connected]
  split
  · rename_i connected
    exact follows_exchange consuming same (same.opened connected)
  · exact Worker.Kept.follows (.iterating iteration .tcpConnect same (fun uses => by cases uses))

theorem follows_runIteration (same : session.Kept kept) (chaosFault : Option ChaosFault) :
    Follows engine (kept.runIteration now chaosFault).taken
      (session.runIteration engine chaosFault) := by
  have restarted : session.Kept { kept with reconnectedThisIteration := false } := { same with }
  rcases chaosFault with _ | fault
  · exact follows_ensureConnected consuming restarted
  · cases fault with
    | latencySpike =>
      exact Worker.Kept.follows (.iterating ⟨now, _⟩ .sleep same (fun uses => by cases uses))
    | connectionDrop => exact follows_fail _
    | _ => exact follows_ensureConnected consuming restarted

theorem follows_iterating {await : Consumer.Await} {action : WorkerAction} {next : Worker}
    (same : session.Kept kept)
    (isOpen : await.onWire.usesStream = true → session.stream.isSome = true)
    (taken :
      Worker.step engine ⟨session, .iterating iteration.chaosFault await.onWire⟩ action =
        some next) :
    Follows engine ⟨kept, some (iteration, await), true⟩ next := by
  have stands := Worker.Kept.iterating iteration await same isOpen
  cases action with
  | deadline =>
    cases await <;> cases taken <;> exact (follows_finish same _).of_advance 0 (.deadline 0) rfl
  | cancelled =>
    cases await <;> cases taken <;> exact (follows_shutdown kept).of_advance 0 .cancelled rfl
  | woke =>
    cases await <;> cases taken
    refine Follows.of_advance ?_ 0 .woke rfl
    exact follows_ensureConnected consuming { same with }
  | opened =>
    cases await <;> cases taken
    exact (follows_opened same).of_advance 0 .opened rfl
  | openFailed =>
    cases await <;> cases taken
    exact (follows_fail _).of_advance 0 .openFailed rfl
  | wrote count =>
    cases await with
    | write request => exact (stands.of_write taken).follows
    | sleep | tcpConnect | read => cases taken
  | written =>
    cases await with
    | write request =>
      obtain ⟨_, resumed⟩ := Option.ite_none_right_eq_some.mp taken
      cases resumed
      exact (follows_afterWrite consuming same (isOpen rfl) request).of_advance 0 .written rfl
    | sleep | tcpConnect | read => cases taken
  | writeFailed =>
    cases await <;> cases taken
    exact (follows_fail _).of_advance 0 .writeFailed rfl
  | received bytes =>
    cases await with
    | read awaited =>
      obtain ⟨_, resumed⟩ := Option.ite_none_right_eq_some.mp taken
      have read : StompSession.Kept { session with decoder := session.decoder.push bytes } kept :=
        { same with }
      cases resumed
      rw [← taken_readFrame same (isOpen rfl) iteration 0 awaited]
      cases awaited with
      | connected => exact follows_connected consuming read (isOpen rfl)
      | message => exact follows_drainMessage read (isOpen rfl)
    | sleep | tcpConnect | write => cases taken
  | readFailed =>
    cases await <;> cases taken
    exact (follows_fail _).of_advance 0 .readFailed rfl
  | begin | stop => cases await <;> cases taken

theorem follows_step {consumer : Consumer.Worker} {action : WorkerAction} {next : Worker}
    (stands : worker.Kept consumer) (taken : worker.step engine action = some next) :
    Follows engine consumer next := by
  cases stands with
  | idle same =>
    cases action <;> cases taken
    · exact (follows_runIteration consuming same _).of_advance 0 (.begin _) rfl
    · exact (follows_shutdown _).of_advance 0 .cancelled rfl
  | iterating iteration await same isOpen => exact follows_iterating consuming same isOpen taken
  | stopped kept stopping =>
    obtain ⟨session, phase⟩ := worker
    rcases stopping with rfl | rfl
    · cases action with
      | wrote count => exact (Worker.Kept.of_write (.stopped kept (Or.inl rfl)) taken).follows
      | written =>
        obtain ⟨_, closed⟩ := Option.ite_none_right_eq_some.mp taken
        cases closed
        exact Worker.Kept.follows (.stopped kept (Or.inr rfl))
      | writeFailed =>
        cases taken
        exact Worker.Kept.follows (.stopped kept (Or.inr rfl))
      | _ => cases taken
    · cases action <;> cases taken

end Consuming

end Following

def consumer : StompEngine :=
  { Worker.producer with mode := .consume }

end Strobengine.Protocols.Stomp
