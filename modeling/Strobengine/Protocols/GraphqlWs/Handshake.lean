import Strobengine.Protocols.GraphqlWs.Moves
import Strobengine.Foundations.Sequence

/-!
# The handshake

A session knows only whether the acknowledgement has been read, and the connection is stored before
`connection_init` is sent: when the deadline drops an iteration in between, the next one sends
`connection_init` on it again.
-/

namespace Strobengine.Protocols.GraphqlWs

open Foundations Metrics Rust

namespace Seen

def isOpened : Seen → Bool
  | .opened => true
  | _ => false

/-- `connection_init` is not sent again on the same connection. -/
def InitOnce (before : List Seen) (seen : Seen) : Prop :=
  seen = .sent .init → .sent .init ∉ since isOpened before

/-- `subscribe` is sent on a connection whose `connection_ack` was read. -/
def AckFirst (before : List Seen) (seen : Seen) : Prop :=
  seen = .sent .subscribe → .read .ack ∈ since isOpened before

end Seen

section Moves

variable {engine : GraphqlWsEngine} {action : WorkerAction}
  {session entered next : GraphqlWsSession}
  {place place' : Option (Iteration × Await)} {seen first log : List Seen}

theorem Enters.not_sent
    (enters : Enters engine action session place entered first) (request : Request) :
    .sent request ∉ first := by
  cases enters <;> simp

theorem Move.grounded {Follows : List Seen → Seen → Prop}
    (others : ∀ before seen, (∀ request, seen ≠ .sent request) → Follows before seen)
    (move : Move engine action session place next place' seen) (grounded : Grounded Follows log)
    (sends :
      ∀ entered first request,
        Enters engine action session place entered first →
          (Await.send request).Fits entered →
            (request = .init → handshaking place = false) →
              Follows (log ++ first) (.sent request)) :
    Grounded Follows (log ++ seen) := by
  have quiet :
      ∀ rest : List Seen, (∀ request, .sent request ∉ rest) → Grounded Follows (log ++ rest) := by
    intro rest unsent
    apply grounded.append
    intro before item after split
    apply others
    rintro request rfl
    exact unsent request (by rw [split]; simp)
  cases move with
  | continues enters continues =>
    have entered := quiet _ enters.not_sent
    cases continues with
    | returns ending metric settled silent | resets ending metric silent =>
      rw [← List.append_assoc]
      exact entered.concat (others _ _ (by simp))
    | suspends =>
      rw [List.append_nil]
      exact entered
    | sends iteration request fits rested =>
      rw [← List.append_assoc]
      exact entered.concat (sends _ _ request enters fits rested)
  | reports | fails | drops => exact quiet _ (by simp)

theorem Continues.unopened (continues : Continues place session next place' seen) :
    ∀ item ∈ seen, item.isOpened = false := by
  cases continues <;> simp [Seen.isOpened]

theorem Enters.ack_mem (enters : Enters engine action session place entered first)
    (coherent : session.Coherent)
    (fits : ∀ iteration await, place = some (iteration, await) → await.Fits session)
    (acknowledged : session.initialized = true → .read .ack ∈ since Seen.isOpened log)
    (initialized : entered.initialized = true) :
    .read .ack ∈ since Seen.isOpened (log ++ first) := by
  cases enters with
  | opened =>
    -- a connection is only opened when there is none, and then nothing is initialised
    have closed : session.stream = false := fits _ _ rfl
    rw [coherent.closed closed] at initialized
    cases initialized
  | acknowledged =>
    rw [since_append log (by simp [Seen.isOpened])]
    exact List.mem_append_right _ List.mem_cons_self
  | _ =>
    rw [since_append log (by simp [Seen.isOpened])]
    exact List.mem_append_left _ (acknowledged initialized)

theorem Move.ack_mem (move : Move engine action session place next place' seen)
    (coherent : session.Coherent)
    (fits : ∀ iteration await, place = some (iteration, await) → await.Fits session)
    (acknowledged : session.initialized = true → .read .ack ∈ since Seen.isOpened log)
    (initialized : next.initialized = true) :
    .read .ack ∈ since Seen.isOpened (log ++ seen) := by
  cases move with
  | continues enters continues =>
    have entered := enters.ack_mem coherent fits acknowledged
    rw [← List.append_assoc, since_append _ continues.unopened]
    cases continues with
    | resets => cases initialized
    | _ => exact List.mem_append_left _ (entered initialized)
  | fails => cases initialized
  | reports | drops =>
    rw [since_append log (by simp [Seen.isOpened])]
    exact List.mem_append_left _ (acknowledged initialized)

end Moves

namespace Worker

variable {engine : GraphqlWsEngine} {worker next : Worker} {action : WorkerAction}
  {seen log : List Seen}

structure Acknowledged (worker : Worker) (log : List Seen) : Prop where
  fitting : worker.Fitting
  acknowledged : worker.session.initialized = true → .read .ack ∈ since Seen.isOpened log
  ordered : Grounded Seen.AckFirst log

theorem Acknowledged.of_step (acknowledged : worker.Acknowledged log)
    (taken : worker.observed engine action = some (next, seen)) :
    next.Acknowledged (log ++ seen) := by
  obtain ⟨fitting, initialized, ordered⟩ := acknowledged
  refine ⟨fitting.of_step taken, ?_, ?_⟩
  · rcases moved_of_step fitting taken with ⟨_, rfl, rfl⟩ | moved
    · rw [List.append_nil]
      exact initialized
    · exact moved.move.ack_mem fitting.coherent fitting.place initialized
  · rcases moved_of_step fitting taken with ⟨_, rfl, rfl⟩ | moved
    · rw [List.append_nil]
      exact ordered
    · refine moved.move.grounded (fun before seen other => ?_) ordered ?_
      · intro subscribe
        exact absurd subscribe (other .subscribe)
      · rintro entered first request enters fits _ subscribe
        cases subscribe
        exact enters.ack_mem fitting.coherent fitting.place initialized fits.2.1

/-- A deadline does not strike between `connection_init` and its acknowledgement. -/
def greets (worker : Worker) (action : WorkerAction) : Prop :=
  action.event = .deadline → handshaking worker.suspended = false
  deriving Decidable

structure Greeted (worker : Worker) (log : List Seen) : Prop where
  fitting : worker.Fitting
  greeting :
    worker.running = true → worker.session.stream = true →
      worker.session.initialized = true ∨ handshaking worker.suspended = true
  ordered : Grounded Seen.InitOnce log

theorem greeting_of_fits {session : GraphqlWsSession} {await : Await}
    (iteration : Iteration) (fits : await.Fits session)
    (stream : session.stream = true) (awake : await ≠ .sleep) :
    session.initialized = true ∨ handshaking (some (iteration, await)) = true := by
  cases await with
  | sleep => exact absurd rfl awake
  | connect =>
    have closed : session.stream = false := fits
    rw [stream] at closed
    cases closed
  | send request =>
    cases request with
    | init => exact Or.inr rfl
    | corrupted => exact Or.inl fits.2
    | subscribe => exact Or.inl fits.2.1
  | read purpose deadline | pong purpose deadline =>
    cases purpose with
    | init => exact Or.inr rfl
    | corrupted => exact Or.inl fits.2
    | subscription => exact Or.inl fits.2.1

theorem initialized_of_begun {entered : GraphqlWsSession}
    (enters : Enters engine action worker.session worker.suspended entered seen)
    (greeting :
      worker.session.stream = true →
        worker.session.initialized = true ∨ handshaking worker.suspended = true)
    (begun : worker.suspended = none) (stream : entered.stream = true) :
    entered.initialized = true := by
  rw [begun] at enters greeting
  cases enters
  simpa [handshaking] using greeting stream

theorem greeting_of_moved (fitting : worker.Fitting) (moved : Moved engine worker action next seen)
    (allowed : worker.greets action)
    (greeting :
      worker.session.stream = true →
        worker.session.initialized = true ∨ handshaking worker.suspended = true)
    (stream : next.session.stream = true) :
    next.session.initialized = true ∨ handshaking next.suspended = true := by
  obtain ⟨_, _, move⟩ := moved
  obtain ⟨_, session, suspended, _⟩ := next
  cases move with
  | continues enters continues =>
    cases continues with
    | returns ending metric settled =>
      rcases settled with initialized | start
      · exact Or.inl initialized
      · exact Or.inl (initialized_of_begun enters greeting start stream)
    | resets => cases stream
    | suspends iteration await fits quiet rested =>
      by_cases asleep : await = .sleep
      · exact Or.inl (initialized_of_begun enters greeting (rested asleep) stream)
      · exact greeting_of_fits iteration fits stream asleep
    | sends iteration request fits => exact greeting_of_fits iteration fits stream (by simp)
  | reports iteration operations deadline bytes reading =>
    exact Or.inl (fitting.place _ _ reading).2.1
  | fails => cases stream
  | drops reading metric late =>
    rcases greeting stream with initialized | shaking
    · exact Or.inl initialized
    · rw [allowed late] at shaking
      cases shaking

theorem init_not_mem {entered : GraphqlWsSession}
    (enters : Enters engine action worker.session worker.suspended entered seen)
    (greeting :
      worker.session.stream = true →
        worker.session.initialized = true ∨ handshaking worker.suspended = true)
    (fits : (Await.send .init).Fits entered) (rested : handshaking worker.suspended = false) :
    .sent .init ∉ since Seen.isOpened (log ++ seen) := by
  obtain ⟨stream, uninitialized⟩ := fits
  rw [rested] at greeting
  generalize worker.suspended = place at enters rested
  cases enters with
  | opened =>
    rw [since_concat_of_marked log rfl]
    exact List.not_mem_nil
  | acknowledged => cases rested
  | _ =>
    have initialized : worker.session.initialized = true := by simpa using greeting stream
    have fresh : worker.session.initialized = false := uninitialized
    rw [initialized] at fresh
    cases fresh

theorem Greeted.of_step (greeted : worker.Greeted log) (allowed : worker.greets action)
    (taken : worker.observed engine action = some (next, seen)) :
    next.Greeted (log ++ seen) := by
  obtain ⟨fitting, greeting, ordered⟩ := greeted
  have fittingNext := fitting.of_step taken
  rcases moved_of_step fitting taken with ⟨_, rfl, rfl⟩ | moved
  · rw [List.append_nil]
    exact ⟨fittingNext, fun running => (by cases running), ordered⟩
  · have running : worker.running = true := running_of_observed taken
    refine ⟨fittingNext, fun _ => greeting_of_moved fitting moved allowed (greeting running), ?_⟩
    refine moved.move.grounded (fun before seen other => ?_) ordered ?_
    · intro init
      exact absurd init (other .init)
    · rintro entered first request enters fits rested init
      cases init
      exact init_not_mem enters (greeting running) fits (rested rfl)

end Worker

abbrev Observes (engine : GraphqlWsEngine)
    (guard : Tracked Worker Seen → WorkerAction → Prop) (run : Tracked Worker Seen) : Prop :=
  Reaches (Tracked.step (Worker.observed engine)) guard (.start (Worker.new true)) run

theorem subscribes_acknowledged {engine : GraphqlWsEngine} {run : Tracked Worker Seen}
    (reached : Observes engine unguarded run) : Grounded Seen.AckFirst run.log := by
  have holds :=
    Tracked.invariant Worker.Acknowledged
      (fun _ _ _ _ _ holds _ taken => holds.of_step taken)
      ⟨Worker.fitting_new, fun initialized => (by cases initialized), Grounded.nil⟩ reached
  exact holds.ordered

/-- Where no deadline strikes in a handshake, at most one `connection_init` is sent on every
connection, and no `subscribe` before its `connection_ack` was read. -/
theorem connections_initialized_once {engine : GraphqlWsEngine} {run : Tracked Worker Seen}
    (reached : Observes engine (Tracked.guardOn Worker.greets) run) :
    Grounded Seen.InitOnce run.log ∧ Grounded Seen.AckFirst run.log := by
  constructor
  · have holds :=
      Tracked.invariant Worker.Greeted
        (fun _ _ _ _ _ holds allowed taken => holds.of_step allowed taken)
        ⟨Worker.fitting_new, fun _ stream => (by cases stream), Grounded.nil⟩ reached
    exact holds.ordered
  · exact subscribes_acknowledged (reached.mono (fun _ _ _ => True.intro))

/-- A deadline drops the second iteration in its read; the third one goes on with the
connection, and a fourth opens another after it was closed. -/
theorem connections_initialized_once_sample :
    ∃ run : Tracked Worker Seen,
      Observes .sample (Tracked.guardOn Worker.greets) run ∧ run.log.count (.sent .init) = 2 ∧
        run.log.count (.sent .subscribe) = 2 ∧
        Grounded Seen.InitOnce run.log ∧ Grounded Seen.AckFirst run.log :=
  Reaches.exists_and₂_of_executeChecked
    (firstMessage 0 ++ [⟨1, .begin none⟩, ⟨2, .deadline⟩, ⟨3, .begin none⟩, ⟨4, .message .close⟩] ++
      firstMessage 5)
    (by decide +kernel) (fun _ reached _ _ => connections_initialized_once reached)

/-- The deadline drops the first iteration while it waits for the acknowledgement; the
second sends `connection_init` on the same connection. -/
theorem deadline_repeats_connection_init :
    ∃ run : Tracked Worker Seen,
      Observes .sample unguarded run ∧ ¬Grounded Seen.InitOnce run.log := by
  refine
    Reaches.exists_imp_of_executeChecked
      (fun run =>
        run.log = [Seen.opened, .sent .init,
          .returned (.onDeadline true) (RequestMetric.error 5000000 none)] ++ Seen.sent .init :: [])
      [⟨0, .begin none⟩, ⟨1, .connected⟩, ⟨2, .sent⟩, ⟨5000000, .deadline⟩, ⟨5000001, .begin none⟩]
      (by decide +kernel) ?_
  intro run reached log once
  have fresh := once.split log rfl
  revert fresh
  decide

end Strobengine.Protocols.GraphqlWs
