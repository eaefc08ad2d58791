import Strobengine.Protocols.GraphqlWs.Moves
import Strobengine.Protocols.Stopwatch

/-!
# What subscriptions measure

An iteration only waits for events while the session is subscribed, so the stopwatch goes whenever
it is read.
-/

namespace Strobengine.Protocols.GraphqlWs

open Foundations Metrics

def Seen.measurement? : Seen → Option Measurement
  | .sent .subscribe => some .subscribed
  | .returned (.onRead (.next _)) metric =>
    match metric.protocol with
    | some (.graphqlWs sample) => some (.message sample.ttfmUs sample.intervalUs)
    | _ => none
  | _ => none

def measured (log : List Seen) : List Measurement :=
  log.filterMap Seen.measurement?

theorem measured_append (log rest : List Seen) :
    measured (log ++ rest) = measured log ++ measured rest :=
  List.filterMap_append

theorem measured_returned {ending : Ending} {metric : RequestMetric}
    (silent : ∀ bytes, ending = .onRead (.next bytes) → metric.protocol = none) :
    measured [.returned ending metric] = [] := by
  have unmeasured : (Seen.returned ending metric).measurement? = none := by
    unfold Seen.measurement?
    split
    · rename_i subscribe
      cases subscribe
    · rename_i returned
      cases returned
      rw [silent _ rfl]
    · rfl
  simp [measured, unmeasured]

def GraphqlWsSession.watch (session : GraphqlWsSession) : Stopwatch :=
  { startedAt := session.subscribeSentAt
    lastAt := session.lastMessageAt
    seen := session.ttfmRecorded }

section Moves

variable {engine : GraphqlWsEngine} {action : WorkerAction}
  {session entered next : GraphqlWsSession}
  {place place' : Option (Iteration × Await)} {seen first : List Seen} {times : List Measurement}

structure Timing (session : GraphqlWsSession) (place : Option (Iteration × Await))
    (times : List Measurement) : Prop where
  watch : session.subscribed = true → session.watch.Goes times
  fresh : subscribing place = true → since Measurement.isSubscribed times = []
  timed : Grounded Measurement.Timed times

theorem Enters.measured_eq_nil
    (enters : Enters engine action session place entered first) : measured first = [] := by
  cases enters <;> rfl

theorem Enters.watch (enters : Enters engine action session place entered first)
    (timing : Timing session place times) (subscribed : entered.subscribed = true) :
    entered.watch.Goes times := by
  cases enters with
  | subscribed => exact Stopwatch.goes_start action.now (timing.fresh rfl)
  | ended => cases subscribed
  | _ => exact timing.watch subscribed

theorem Timing.of_continues (continues : Continues place session next place' seen)
    (watch : session.subscribed = true → session.watch.Goes times)
    (timed : Grounded Measurement.Timed times) :
    Timing next place' (times ++ measured seen) := by
  cases continues with
  | returns ending metric settled silent =>
    rw [measured_returned silent, List.append_nil]
    exact ⟨watch, fun requested => (by cases requested), timed⟩
  | resets ending metric silent =>
    rw [measured_returned silent, List.append_nil]
    exact ⟨fun subscribed => (by cases subscribed), fun requested => (by cases requested), timed⟩
  | suspends iteration await fits quiet =>
    rw [show measured [] = [] from rfl, List.append_nil]
    refine ⟨watch, fun requested => ?_, timed⟩
    cases await <;> cases quiet <;> cases requested
  | sends iteration request fits =>
    cases request with
    | subscribe =>
      refine ⟨fun subscribed => ?_, fun _ => ?_, ?_⟩
      · rw [fits.2.2] at subscribed
        cases subscribed
      · exact since_concat_of_marked times rfl
      · exact timed.concat True.intro
    | init | corrupted =>
      rw [show measured [.sent _] = [] from rfl, List.append_nil]
      exact ⟨watch, fun requested => (by cases requested), timed⟩

theorem Timing.of_move (move : Move engine action session place next place' seen)
    (fits : ∀ iteration await, place = some (iteration, await) → await.Fits session)
    (timing : Timing session place times) :
    Timing next place' (times ++ measured seen) := by
  cases move with
  | continues enters continues =>
    rw [measured_append, enters.measured_eq_nil, List.nil_append]
    exact Timing.of_continues continues (enters.watch timing) timing.timed
  | reports iteration operations deadline bytes reading =>
    have goes := timing.watch (fits _ _ reading).2.2
    refine ⟨fun _ => ?_, fun requested => (by cases requested), ?_⟩
    · exact goes.concat_message action.now _ _
    · exact timing.timed.concat (goes.timed action.now)
  | fails =>
    rw [measured_returned (by simp), List.append_nil]
    exact
      ⟨fun subscribed => (by cases subscribed), fun requested => (by cases requested),
        timing.timed⟩
  | drops =>
    rw [measured_returned (by simp), List.append_nil]
    exact ⟨timing.watch, fun requested => (by cases requested), timing.timed⟩

end Moves

/-- In every run of a session, the first event that is reported behind a `subscribe` carries
a time to the first message, and every other one an interval. -/
theorem timed_measured {engine : GraphqlWsEngine} {run : Tracked Worker Seen}
    (reached :
      Reaches (Tracked.step (Worker.observed engine)) unguarded (.start (Worker.new true)) run) :
    Grounded Measurement.Timed (measured run.log) := by
  have holds :
      run.state.Fitting ∧ Timing run.state.session run.state.suspended (measured run.log) := by
    apply Tracked.invariant
      (fun worker log => worker.Fitting ∧ Timing worker.session worker.suspended (measured log))
      ?_ ⟨Worker.fitting_new, ?_⟩ reached
    · rintro worker log action next seen ⟨fitting, timing⟩ _ taken
      refine ⟨fitting.of_step taken, ?_⟩
      rw [measured_append]
      rcases Worker.moved_of_step fitting taken with ⟨_, rfl, rfl⟩ | moved
      · rw [show measured [] = [] from rfl, List.append_nil]
        exact ⟨timing.watch, fun requested => (by cases requested), timing.timed⟩
      · exact timing.of_move moved.move fitting.place
    · exact
        ⟨fun subscribed => (by cases subscribed), fun requested => (by cases requested),
          Grounded.nil⟩
  exact holds.2.timed

end Strobengine.Protocols.GraphqlWs
