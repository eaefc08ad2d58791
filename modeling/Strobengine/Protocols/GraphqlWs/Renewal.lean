import Strobengine.Protocols.GraphqlWs.Handshake

/-!
# Renewing a subscription

The read after a corrupted payload drops what it is delivered: when this is the end of a
subscription, the session stays marked as subscribed, and every later iteration waits for events
that never come. Every other read of a subscribed session takes the end of any subscription for that
of its own.
-/

namespace Strobengine.Protocols.GraphqlWs

open Foundations Metrics Rust

def Seen.isSubscribe : Seen → Bool
  | .sent .subscribe => true
  | _ => false

def Seen.isEnd : Seen → Bool
  | .read event own => event.ends && own
  | _ => false

def Seen.isForeignEnd : Seen → Bool
  | .read event own => event.ends && !own
  | _ => false

/-- `subscribe` was sent on the current connection, and no end of this subscription was read
since. -/
def Active (log : List Seen) : Prop :=
  .sent .subscribe ∈ since Seen.isOpened log ∧
    ∀ seen ∈ since Seen.isSubscribe log, seen.isEnd = false
  deriving Decidable

section Active

variable (log : List Seen)

theorem active_concat_subscribe : Active (log ++ [Seen.sent .subscribe]) := by
  constructor
  · rw [since_append log (by simp [Seen.isOpened])]
    simp
  · rw [since_concat_of_marked log rfl]
    simp

theorem not_active_concat_opened : ¬Active (log ++ [Seen.opened]) := by
  rintro ⟨subscribed, _⟩
  rw [since_concat_of_marked log rfl] at subscribed
  cases subscribed

theorem not_active_concat_end {seen : Seen} (ends : seen.isEnd = true) :
    ¬Active (log ++ [seen]) := by
  have other : seen.isSubscribe = false := by
    cases seen with
    | read => rfl
    | _ => cases ends
  rintro ⟨_, unended⟩
  rw [since_append log (by simpa using other)] at unended
  have still := unended seen (by simp)
  rw [ends] at still
  cases still

theorem active_concat_iff {seen : Seen}
    (unopened : seen.isOpened = false) (unsent : seen.isSubscribe = false)
    (unended : seen.isEnd = false) : Active (log ++ [seen]) ↔ Active log := by
  have other : Seen.sent .subscribe ≠ seen := by
    rintro rfl
    cases unsent
  unfold Active
  rw [since_append log (by simpa using unopened), since_append log (by simpa using unsent)]
  simp only [List.mem_append, List.mem_singleton, other, or_false]
  constructor
  · rintro ⟨sent, none⟩
    exact ⟨sent, fun item member => none item (Or.inl member)⟩
  · rintro ⟨sent, none⟩
    refine ⟨sent, ?_⟩
    rintro item (member | rfl)
    · exact none item member
    · exact unended

end Active

section Moves

variable {engine : GraphqlWsEngine} {action : WorkerAction}
  {session entered next : GraphqlWsSession}
  {place place' : Option (Iteration × Await)} {seen first log : List Seen}

/-- The mark of a session that is not about to be set says whether a subscription is
active. -/
def Marked (session : GraphqlWsSession) (log : List Seen) : Prop :=
  session.subscribed = true ↔ session.stream = true ∧ Active log

theorem Marked.of_enters (enters : Enters engine action session place entered first)
    (coherent : session.Coherent)
    (fits : ∀ iteration await, place = some (iteration, await) → await.Fits session)
    (noticed :
      ∀ iteration deadline seen,
        place = some (iteration, .read .corrupted deadline) →
          delivered engine place action.event = [seen] → seen.isEnd = true →
            session.subscribed = false)
    (addressed :
      ∀ iteration operations deadline event own,
        place = some (iteration, .read (.subscription operations) deadline) →
          delivered engine place action.event = [.read event own] → event.ends = true →
            own = true)
    (marked : subscribing place = false → Marked session log)
    (requested : subscribing place = true → Active log) :
    Marked entered (log ++ first) := by
  cases enters with
  | unchanged idle =>
    rw [List.append_nil]
    exact marked idle
  | opened =>
    have closed : session.stream = false := fits _ _ rfl
    have unmarked : session.subscribed = false := by rw [coherent.closed closed]
    unfold Marked
    simp [unmarked, not_active_concat_opened]
  | acknowledged =>
    unfold Marked
    rw [active_concat_iff log rfl rfl rfl]
    exact marked rfl
  | subscribed =>
    have suits : Await.Fits session _ := fits _ _ rfl
    rw [List.append_nil]
    exact ⟨fun _ => ⟨suits.1, requested rfl⟩, fun _ => rfl⟩
  | ended arrived ends =>
    rename_i event own
    have isEnd : (Seen.read event own).isEnd = true := by
      rw [Seen.isEnd, ends, addressed _ _ _ event own rfl arrived ends]
      rfl
    unfold Marked
    simp [not_active_concat_end log isEnd]
  | delivered arrived ends =>
    rename_i iteration purpose deadline event own
    by_cases ended : (Seen.read event own).isEnd = true
    · have unmarked : session.subscribed = false := by
        rcases ends (Bool.and_eq_true_iff.mp ended).1 with rfl | rfl
        · -- before the acknowledgement nothing is subscribed
          have suits : Await.Fits session _ := fits _ _ rfl
          have uninitialized : session.initialized = false := suits.2
          by_contra subscribed
          have initialized := coherent.subscribed (by simpa using subscribed)
          rw [uninitialized] at initialized
          cases initialized
        · exact noticed iteration deadline _ rfl arrived ended
      unfold Marked
      simp [unmarked, not_active_concat_end log ended]
    · unfold Marked
      rw [active_concat_iff log rfl rfl (by simpa using ended)]
      exact marked rfl

theorem Marked.of_continues
    (continues : Continues place session next place' seen) (marked : Marked session log) :
    (subscribing place' = false → Marked next (log ++ seen)) ∧
      (subscribing place' = true → Active (log ++ seen)) := by
  cases continues with
  | returns =>
    refine ⟨fun _ => ?_, fun requested => by cases requested⟩
    unfold Marked
    rw [active_concat_iff log rfl rfl rfl]
    exact marked
  | resets =>
    refine ⟨fun _ => ?_, fun requested => by cases requested⟩
    simp [Marked]
  | suspends iteration await fits quiet =>
    rw [List.append_nil]
    refine ⟨fun _ => marked, fun requested => ?_⟩
    cases await <;> cases quiet <;> cases requested
  | sends iteration request =>
    cases request with
    | subscribe => exact ⟨fun idle => (by cases idle), fun _ => active_concat_subscribe log⟩
    | init | corrupted =>
      refine ⟨fun _ => ?_, fun requested => by cases requested⟩
      unfold Marked
      rw [active_concat_iff log rfl rfl rfl]
      exact marked

end Moves

namespace Worker

variable {engine : GraphqlWsEngine} {worker next : Worker} {action : WorkerAction}
  {seen log : List Seen}

def completes (_ : Worker) (action : WorkerAction) : Prop :=
  action.event ≠ .deadline ∧ action.event ≠ .cancelled
  deriving Decidable

/-- The end of the subscription is delivered to the read after a corrupted payload. -/
def missesEnd (engine : GraphqlWsEngine) (worker : Worker) (action : WorkerAction) : Bool :=
  match worker.suspended with
  | some (iteration, .read .corrupted deadline) =>
    worker.session.subscribed &&
      (delivered engine (some (iteration, .read .corrupted deadline)) action.event).any
        Seen.isEnd
  | _ => false

/-- The end of another subscription is delivered to a read for the own one. -/
def mistakesEnd (engine : GraphqlWsEngine) (worker : Worker) (action : WorkerAction) : Bool :=
  match worker.suspended with
  | some (iteration, .read (.subscription operations) deadline) =>
    (delivered engine (some (iteration, .read (.subscription operations) deadline))
      action.event).any Seen.isForeignEnd
  | _ => false

/-- The iterations are not dropped, no end of the subscription is missed, and none of another one
is taken for it. -/
def renews (engine : GraphqlWsEngine) (worker : Worker) (action : WorkerAction) : Prop :=
  worker.completes action ∧ worker.missesEnd engine action = false ∧
    worker.mistakesEnd engine action = false
  deriving Decidable

theorem renews.noticed
    (allowed : worker.renews engine action) (iteration : Iteration) (deadline : Nat) (seen : Seen)
    (reading : worker.suspended = some (iteration, .read .corrupted deadline))
    (arrived : delivered engine worker.suspended action.event = [seen])
    (ends : seen.isEnd = true) : worker.session.subscribed = false := by
  have heard := allowed.2.1
  rw [missesEnd, reading] at heard
  rw [reading] at arrived
  simpa [arrived, ends] using heard

theorem renews.addressed
    (allowed : worker.renews engine action) (iteration : Iteration) (operations : Option Nat)
    (deadline : Nat) (event : ReadEvent) (own : Bool)
    (reading : worker.suspended = some (iteration, .read (.subscription operations) deadline))
    (arrived : delivered engine worker.suspended action.event = [.read event own])
    (ends : event.ends = true) : own = true := by
  have heard := allowed.2.2
  rw [mistakesEnd, reading] at heard
  rw [reading] at arrived
  simpa [arrived, Seen.isForeignEnd, ends] using heard

structure Renewed (worker : Worker) (log : List Seen) : Prop where
  fitting : worker.Fitting
  marked : subscribing worker.suspended = false → Marked worker.session log
  requested : subscribing worker.suspended = true → Active log

theorem Renewed.of_step (renewed : worker.Renewed log) (allowed : worker.renews engine action)
    (taken : worker.observed engine action = some (next, seen)) :
    next.Renewed (log ++ seen) := by
  obtain ⟨fitting, marked, requested⟩ := renewed
  have fittingNext := fitting.of_step taken
  rcases moved_of_step fitting taken with ⟨cancelled, _, _⟩ | moved
  · exact absurd cancelled allowed.1.2
  · obtain ⟨_, _, move⟩ := moved
    obtain ⟨_, session, suspended, _⟩ := next
    suffices
        (subscribing suspended = false → Marked session (log ++ seen)) ∧
          (subscribing suspended = true → Active (log ++ seen)) by
      exact ⟨fittingNext, this.1, this.2⟩
    cases move with
    | continues enters continues =>
      rw [← List.append_assoc]
      apply Marked.of_continues continues
      exact Marked.of_enters enters fitting.coherent fitting.place allowed.noticed
        allowed.addressed marked requested
    | reports iteration operations deadline bytes reading =>
      refine ⟨fun _ => ?_, fun requested => by cases requested⟩
      have before : Marked worker.session log := marked (by rw [reading]; rfl)
      unfold Marked
      rw [List.append_cons, active_concat_iff _ rfl rfl rfl, active_concat_iff _ rfl rfl rfl]
      exact before
    | fails =>
      refine ⟨fun _ => ?_, fun requested => by cases requested⟩
      simp [Marked]
    | drops reading metric late => exact absurd late allowed.1.1

end Worker

/-- Where no end of the subscription is delivered to the read after a corrupted payload, and none
of another subscription to a read for this one, a session is marked as subscribed after every
iteration exactly when a subscription is active, and an iteration only waits for events of an
active subscription. -/
theorem subscribed_iff_active {engine : GraphqlWsEngine} {run : Tracked Worker Seen}
    (reached : Observes engine (Tracked.guardOn (Worker.renews engine)) run) :
    (run.state.suspended = none →
        (run.state.session.subscribed = true ↔
          run.state.session.stream = true ∧ Active run.log)) ∧
      ∀ iteration operations deadline,
        run.state.suspended = some (iteration, .read (.subscription operations) deadline) →
          Active run.log := by
  have holds :=
    Tracked.invariant Worker.Renewed
      (fun _ _ _ _ _ holds allowed taken => holds.of_step allowed taken)
      ⟨Worker.fitting_new, fun _ => (by simp [Marked, Worker.new, Tracked.start]),
        fun requested => by cases requested⟩ reached
  constructor
  · intro idle
    exact holds.marked (by rw [idle]; rfl)
  · intro iteration operations deadline reading
    have marked := holds.marked (by rw [reading]; rfl)
    exact (marked.mp (holds.fitting.place _ _ reading).2.2).2

/-- The subscription ends in the second iteration; the third one, after a corrupted payload
in between, subscribes again. -/
theorem subscribed_iff_active_sample :
    ∃ run : Tracked Worker Seen,
      Observes .sample (Tracked.guardOn (Worker.renews .sample)) run ∧ run.state.suspended = none ∧
        run.log.count (.sent .subscribe) = 2 ∧ run.log.count (.read .complete) = 1 ∧
        (run.state.session.subscribed = true ↔
          run.state.session.stream = true ∧ Active run.log) := by
  refine
    Reaches.exists_imp_of_executeChecked
      (fun run => run.state.suspended = none ∧ run.log.count (.sent .subscribe) = 2 ∧
        run.log.count (.read .complete) = 1)
      (firstMessage 0 ++
        [⟨1, .begin none⟩, ⟨2, .message (.text "complete")⟩,
          ⟨3, .begin (some .corruptedPayload)⟩, ⟨4, .sent⟩, ⟨5, .message (.text "foreign")⟩,
          ⟨6, .begin none⟩, ⟨7, .sent⟩, ⟨8, .message (.text "next")⟩])
      (by decide +kernel) ?_
  rintro run reached ⟨idle, subscribes, ends⟩
  exact ⟨idle, subscribes, ends, (subscribed_iff_active reached).1 idle⟩

/-- The end of the subscription is delivered to the iteration with the corrupted payload: the
session stays marked, and the next iteration waits for events of an ended subscription. The end of
another subscription takes the mark from a session whose own one is active. -/
theorem corrupted_payload_hides_end :
    (∃ run : Tracked Worker Seen,
      Observes .sample (Tracked.guardOn Worker.completes) run ∧ run.state.suspended = none ∧
        ¬(run.state.session.subscribed = true ↔ run.state.session.stream = true ∧ Active run.log)) ∧
      (∃ run : Tracked Worker Seen,
        Observes .sample (Tracked.guardOn Worker.completes) run ∧
          run.state.suspended = some (⟨4, none⟩, .read (.subscription none) 5000004) ∧
          ¬Active run.log) ∧
      ∃ run : Tracked Worker Seen,
        Observes .sample (Tracked.guardOn Worker.completes) run ∧ run.state.suspended = none ∧
          run.state.session.stream = true ∧ run.state.session.subscribed = false ∧
          Active run.log := by
  refine ⟨?_, ?_, ?_⟩
  · exact
      Reaches.exists_of_executeChecked
        (firstMessage 0 ++
          [⟨1, .begin (some .corruptedPayload)⟩, ⟨2, .sent⟩, ⟨3, .message (.text "complete")⟩])
        (by decide +kernel)
  · exact
      Reaches.exists_of_executeChecked
        (firstMessage 0 ++
          [⟨1, .begin (some .corruptedPayload)⟩, ⟨2, .sent⟩,
            ⟨3, .message (.text "complete")⟩, ⟨4, .begin none⟩])
        (by decide +kernel)
  · exact
      Reaches.exists_of_executeChecked
        (firstMessage 0 ++ [⟨1, .begin none⟩, ⟨2, .message (.text "foreign")⟩])
        (by decide +kernel)

end Strobengine.Protocols.GraphqlWs
