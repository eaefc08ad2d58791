import Strobengine.Foundations.Sequence
import Strobengine.Protocols.Sse.Session

/-!
# The cap on events

`--sse-max-events` caps the events of a connection. The counter that is compared with the cap grows
by one with every chunk that completes events, however many these are, so one chunk can take a
connection beyond it.
-/

namespace Strobengine.Protocols.Sse

open Foundations Metrics Rust

inductive Seen where
  | opened
  | consumed (event : SseEvent)
  deriving DecidableEq, Repr

def Seen.isOpened : Seen → Bool
  | .opened => true
  | .consumed _ => false

/-- The event is not the first beyond the cap on its connection. -/
def Seen.Within (cap : Nat) (before : List Seen) (seen : Seen) : Prop :=
  seen.isOpened = false → (since isOpened before).length < cap

def Output.consumed? : Output → Option Seen
  | .parsed event => some (.consumed event)
  | .returned _ => none

def WorkerEvent.opening : WorkerEvent → List Seen
  | .connected _ => [.opened]
  | _ => []

def Worker.observed (engine : SseEngine) : Emitting Worker WorkerAction Seen
  | worker, action =>
    (worker.step engine action).map (fun result =>
      (result.1, action.event.opening ++ result.2.filterMap Output.consumed?))

/-- From no connection more events are consumed than the cap allows. -/
def WithinCap (cap : Nat) (log : List Seen) : Prop :=
  ∀ before segment after,
    log = before ++ Seen.opened :: segment ++ after → Seen.opened ∉ segment → segment.length ≤ cap

theorem withinCap_of_grounded {cap : Nat} {log : List Seen}
    (grounded : Grounded (Seen.Within cap) log) : WithinCap cap log := by
  intro before segment after cut single
  rcases List.eq_nil_or_concat' segment with rfl | ⟨earlier, last, rfl⟩
  · exact Nat.zero_le cap
  · have events : ∀ seen ∈ earlier ++ [last], seen.isOpened = false := by
      intro seen member
      cases seen with
      | opened => exact absurd member single
      | consumed => rfl
    have here : Seen.Within cap (before ++ .opened :: earlier) last :=
      grounded.split (show log = (before ++ .opened :: earlier) ++ last :: after by
        rw [cut]
        simp)
    have bound := here (events last (by simp))
    rw [since_append_cons before rfl (fun seen member =>
      events seen (List.mem_append_left _ member))] at bound
    rw [List.length_append, List.length_singleton]
    omega

def SseSession.singly (session : SseSession) : Option SessionIteration → WorkerEvent → Prop
  | some (.reading _ _ _ _ _), .chunk bytes =>
    (parseSseChunk session.buffer (fromUtf8Lossy bytes)).1.length ≤ 1
  | _, _ => True

def Worker.singly : Worker → WorkerAction → Prop
  | .persistent session iteration, action => session.singly iteration action.event
  | _, _ => True

instance (session : SseSession) : ∀ (iteration : Option SessionIteration) (event : WorkerEvent),
    Decidable (session.singly iteration event)
  | some (.reading _ _ _ _ _), .chunk _ => Nat.decLe _ _
  | none, _ | some (.sleeping _ _ _), _ | some (.connecting _ _ _), _
  | some (.reading _ _ _ _ _), .begin _ | some (.reading _ _ _ _ _), .woke
  | some (.reading _ _ _ _ _), .connected _ | some (.reading _ _ _ _ _), .connectFailed
  | some (.reading _ _ _ _ _), .readFailed | some (.reading _ _ _ _ _), .streamEnded
  | some (.reading _ _ _ _ _), .deadline | some (.reading _ _ _ _ _), .cancelled =>
    isTrue True.intro

instance : ∀ (worker : Worker) (action : WorkerAction), Decidable (worker.singly action)
  | .persistent session iteration, action =>
    inferInstanceAs (Decidable (session.singly iteration action.event))
  | .stateless _, _ | .ended, _ => isTrue True.intro

structure SseSession.Counts (cap : Nat) (session : SseSession)
    (iteration : Option SessionIteration) (log : List Seen) : Prop where
  maxEvents : session.maxEvents = some cap
  counted : session.stream = true → (since Seen.isOpened log).length = session.eventsReceived
  reading :
    ∀ iterationStart reqStart wasConnected fault totalBytes,
      iteration = some (.reading iterationStart reqStart wasConnected fault totalBytes) →
        session.stream = true ∧ session.eventsReceived < cap

def Worker.Counts (cap : Nat) (worker : Worker) (log : List Seen) : Prop :=
  match worker with
  | .persistent session iteration => session.Counts cap iteration log
  | .stateless _ => False
  | .ended => True

structure Worker.Capped (cap : Nat) (worker : Worker) (log : List Seen) : Prop where
  counts : worker.Counts cap log
  within : Grounded (Seen.Within cap) log

namespace SseSession

variable {cap : Nat} {session : SseSession} {iteration : Option SessionIteration} {log : List Seen}

theorem Counts.leave (counts : session.Counts cap iteration log) : session.Counts cap none log :=
  ⟨counts.maxEvents, counts.counted, fun _ _ _ _ _ reading => by cases reading⟩

theorem counts_start (counts : session.Counts cap none log) (now : Nat)
    (fault : Option ChaosFault) : (session.start now fault).1.Counts cap log := by
  unfold start
  by_cases reached : session.isMaxReached = true
  · rw [if_pos reached]
    exact counts
  · rw [if_neg reached]
    have below : session.eventsReceived < cap := by
      simpa [isMaxReached, counts.maxEvents] using reached
    split
    · rename_i stream
      exact ⟨counts.maxEvents, counts.counted, fun _ _ _ _ _ _ => ⟨stream, below⟩⟩
    · split
      · exact counts
      · exact ⟨counts.maxEvents, counts.counted, fun _ _ _ _ _ reading => by cases reading⟩
      · exact ⟨counts.maxEvents, counts.counted, fun _ _ _ _ _ reading => by cases reading⟩

@[simp]
theorem consumed_finish (metric : RequestMetric) :
    (session.finish metric).2.filterMap Output.consumed? = [] :=
  rfl

@[simp]
theorem consumed_suspend (iteration : SessionIteration) :
    (session.suspend iteration).2.filterMap Output.consumed? = [] :=
  rfl

@[simp]
theorem consumed_start (now : Nat) (fault : Option ChaosFault) :
    (session.start now fault).2.filterMap Output.consumed? = [] := by
  unfold start
  split
  · rfl
  · split
    · rfl
    · split <;> rfl

theorem capped_readChunk
    (counts : session.Counts cap iteration log) (within : Grounded (Seen.Within cap) log)
    (stream : session.stream = true) (below : session.eventsReceived < cap)
    (now iterationStart reqStart : Nat) (wasConnected : Bool) (fault : Option ChaosFault)
    (totalBytes : Nat) (bytes : List UInt8)
    (single : (parseSseChunk session.buffer (fromUtf8Lossy bytes)).1.length ≤ 1) :
    let result :=
      session.readChunk now iterationStart reqStart wasConnected fault totalBytes bytes
    result.1.Capped cap (log ++ result.2.filterMap Output.consumed?) := by
  unfold readChunk
  dsimp only
  split
  · rw [consumed_suspend, List.append_nil]
    exact ⟨⟨counts.maxEvents, counts.counted, fun _ _ _ _ _ _ => ⟨stream, below⟩⟩, within⟩
  · rename_i some
    obtain ⟨event, one⟩ :
        ∃ event, (parseSseChunk session.buffer (fromUtf8Lossy bytes)).1 = [event] := by
      rw [← List.length_eq_one_iff]
      have positive : (parseSseChunk session.buffer (fromUtf8Lossy bytes)).1.length ≠ 0 := by
        simpa using some
      omega
    have length := counts.counted stream
    rw [one]
    refine ⟨⟨counts.maxEvents, fun _ => ?_, fun _ _ _ _ _ reading => by cases reading⟩, ?_⟩
    · change (since Seen.isOpened (log ++ [Seen.consumed event])).length =
        session.eventsReceived + 1
      rw [since_append log (by simp [Seen.isOpened]), List.length_append, length]
      rfl
    · apply within.concat
      intro _
      omega

end SseSession

theorem capped_of_stepPersistent {engine : SseEngine} {now cap : Nat} {session : SseSession}
    {iteration : Option SessionIteration} {event : WorkerEvent}
    {result : Worker × List Output} {log : List Seen}
    (positive : 1 ≤ cap) (counts : session.Counts cap iteration log)
    (within : Grounded (Seen.Within cap) log) (single : session.singly iteration event)
    (taken : Worker.stepPersistent engine now session iteration event = some result) :
    result.1.Capped cap (log ++ (event.opening ++ result.2.filterMap Output.consumed?)) := by
  have dropped : session.dropStream.Counts cap none log :=
    ⟨counts.maxEvents, fun stream => (by cases stream), fun _ _ _ _ _ reading => by cases reading⟩
  unfold Worker.stepPersistent at taken
  split at taken <;> cases taken
  · simp only [WorkerEvent.opening, SseSession.consumed_start, List.append_nil]
    exact ⟨SseSession.counts_start counts now _, within⟩
  · simp only [WorkerEvent.opening, SseSession.consumed_suspend, List.append_nil]
    exact ⟨⟨counts.maxEvents, counts.counted, fun _ _ _ _ _ reading => by cases reading⟩, within⟩
  · -- the counter and the connection start together
    have none : since Seen.isOpened (log ++ [Seen.opened]) = [] := since_concat_of_marked log rfl
    refine
      ⟨⟨counts.maxEvents, fun _ => ?_, fun _ _ _ _ _ _ => ⟨rfl, positive⟩⟩,
        within.concat (fun event => by cases event)⟩
    exact congrArg List.length none
  · simp only [WorkerEvent.opening, SseSession.consumed_finish, List.append_nil]
    exact ⟨counts.leave, within⟩
  · obtain ⟨stream, below⟩ := counts.reading _ _ _ _ _ rfl
    exact SseSession.capped_readChunk counts within stream below now _ _ _ _ _ _ single
  · simp only [WorkerEvent.opening, SseSession.consumed_finish, List.append_nil]
    exact ⟨dropped, within⟩
  · simp only [WorkerEvent.opening, SseSession.streamEnded, SseSession.consumed_finish,
      List.append_nil]
    exact ⟨dropped, within⟩
  · simp only [WorkerEvent.opening, SseSession.consumed_finish, List.append_nil]
    exact ⟨counts.leave, within⟩
  · simp only [WorkerEvent.opening, List.filterMap_nil, List.append_nil]
    exact ⟨True.intro, within⟩

theorem Worker.Capped.of_step
    {engine : SseEngine} {cap : Nat} {worker next : Worker} {action : WorkerAction}
    {log seen : List Seen}
    (positive : 1 ≤ cap) (capped : worker.Capped cap log) (single : worker.singly action)
    (taken : worker.observed engine action = some (next, seen)) :
    next.Capped cap (log ++ seen) := by
  obtain ⟨result, stepped, shown⟩ := Option.map_eq_some_iff.mp taken
  cases shown
  cases worker with
  | stateless => exact absurd capped.counts id
  | persistent => exact capped_of_stepPersistent positive capped.counts capped.within single stepped
  | ended => cases stepped

/-- Where every chunk completes at most one event, no more events are consumed from a
connection than the cap allows. -/
theorem events_within_cap {cap timeoutMicros : Nat} (positive : 1 ≤ cap) {run : Tracked Worker Seen}
    (reached :
      Reaches (Tracked.step (Worker.observed ⟨some cap, timeoutMicros⟩))
        (Tracked.guardOn Worker.singly)
        (.start (Worker.new ⟨some cap, timeoutMicros⟩ true)) run) :
    WithinCap cap run.log := by
  have holds : run.state.Capped cap run.log := by
    apply Tracked.invariant (Worker.Capped cap) ?_ ?_ reached
    · intro worker log action next seen capped single taken
      exact capped.of_step positive single taken
    · exact
        ⟨⟨rfl, fun stream => (by cases stream), fun _ _ _ _ _ reading => by cases reading⟩,
          Grounded.nil⟩
  exact withinCap_of_grounded holds.within

theorem events_within_cap_sample :
    ∃ run : Tracked Worker Seen,
      Reaches (Tracked.step (Worker.observed ⟨some 2, 5000000⟩))
          (Tracked.guardOn Worker.singly) (.start (Worker.new ⟨some 2, 5000000⟩ true)) run ∧
        run.log.countP Seen.isOpened = 2 ∧ run.log.length = 5 ∧ WithinCap 2 run.log :=
  Reaches.exists_and₂_of_executeChecked
    [⟨0, .begin none⟩, ⟨1, .connected 200⟩, ⟨2, .chunk oneEvent⟩, ⟨3, .begin none⟩,
      ⟨4, .streamEnded⟩, ⟨5, .begin none⟩, ⟨6, .connected 200⟩, ⟨7, .chunk oneEvent⟩,
      ⟨8, .begin none⟩, ⟨9, .chunk oneEvent⟩, ⟨10, .begin none⟩]
    (by decide +kernel) (fun _ reached _ _ => events_within_cap (by decide) reached)

/-- Two events in one chunk take a connection beyond a cap of one. -/
theorem chunk_exceeds_cap :
    ∃ run : Tracked Worker Seen,
      Reaches (Tracked.step (Worker.observed ⟨some 1, 5000000⟩)) unguarded
          (.start (Worker.new ⟨some 1, 5000000⟩ true)) run ∧
        ¬WithinCap 1 run.log := by
  refine
    Reaches.exists_imp_of_executeChecked
      (fun run => run.log.head? = some .opened ∧ .opened ∉ run.log.tail ∧ run.log.tail.length = 2)
      [⟨0, .begin none⟩, ⟨1, .connected 200⟩, ⟨2, .chunk (oneEvent ++ oneEvent)⟩]
      (by decide +kernel) ?_
  rintro run reached ⟨opened, single, events⟩
  refine fun within => ?_
  have bound := within [] run.log.tail [] (by simp [List.cons_head?_tail opened]) single
  omega

end Strobengine.Protocols.Sse
