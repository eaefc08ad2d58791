import Strobengine.Metrics.Sections
import Strobengine.Protocols.Sse.Session

/-!
# The number of events

A stateless iteration reports the events of its chunk. An iteration on a session reports the
counter of the connection: it grows by one with every chunk that completes events, and each of the
following iterations reports it again.
-/

namespace Strobengine.Protocols.Sse

open Foundations Metrics Rust

namespace Output

def metric? : Output → Option RequestMetric
  | .parsed _ => none
  | .returned metric => some metric

def event? : Output → Option SseEvent
  | .parsed event => some event
  | .returned _ => none

def reported (output : Output) : Nat :=
  output.metric?.elim 0 RequestMetric.sseEvents

def parsedEvents (output : Output) : Nat :=
  output.event?.elim 0 (fun _ => 1)

@[simp]
theorem reported_parsed (event : SseEvent) : reported (.parsed event) = 0 :=
  rfl

@[simp]
theorem reported_returned (metric : RequestMetric) :
    reported (.returned metric) = metric.sseEvents :=
  rfl

@[simp]
theorem parsedEvents_parsed (event : SseEvent) : parsedEvents (.parsed event) = 1 :=
  rfl

@[simp]
theorem parsedEvents_returned (metric : RequestMetric) : parsedEvents (.returned metric) = 0 :=
  rfl

end Output

def metrics (log : List Output) : List RequestMetric :=
  log.filterMap Output.metric?

def parsedEvents (log : List Output) : List SseEvent :=
  log.filterMap Output.event?

/-- The counter of the session, at the moment it is reported, is the number of events just
parsed: a spent budget or an ended stream has to find it at zero, and a chunk that
completes events has to complete one more than the chunks before it on the connection. -/
def SseSession.inStep (session : SseSession) : Option SessionIteration → WorkerEvent → Prop
  | none, .begin _ => session.isMaxReached = true → session.eventsReceived = 0
  | some (.reading _ _ _ _ _), .chunk bytes =>
    (parseSseChunk session.buffer (fromUtf8Lossy bytes)).1 = [] ∨
      (parseSseChunk session.buffer (fromUtf8Lossy bytes)).1.length = session.eventsReceived + 1
  | some (.reading _ _ _ _ _), .streamEnded => session.eventsReceived = 0
  | _, _ => True

def Worker.inStep : Worker → WorkerAction → Prop
  | .persistent session iteration, action => session.inStep iteration action.event
  | _, _ => True

instance (session : SseSession) (iteration : Option SessionIteration) (event : WorkerEvent) :
    Decidable (session.inStep iteration event) := by
  unfold SseSession.inStep
  split <;> infer_instance

instance (worker : Worker) (action : WorkerAction) : Decidable (worker.inStep action) := by
  unfold Worker.inStep
  split <;> infer_instance

def Balanced (emitted : List Output) : Prop :=
  (emitted.map Output.reported).sum = (emitted.map Output.parsedEvents).sum

theorem balanced_nil : Balanced [] :=
  rfl

theorem balanced_returned_iff (metric : RequestMetric) :
    Balanced [.returned metric] ↔ metric.sseEvents = 0 := by
  simp [Balanced]

theorem balanced_parsed_returned_iff (events : List SseEvent) (metric : RequestMetric) :
    Balanced (events.map Output.parsed ++ [Output.returned metric]) ↔
      events.length = metric.sseEvents := by
  have none : (events.map (Output.reported ∘ Output.parsed)).sum = 0 := by
    simp [Function.comp_def]
  have all : (events.map (Output.parsedEvents ∘ Output.parsed)).sum = events.length := by
    have one : Output.parsedEvents ∘ Output.parsed = fun _ => 1 := rfl
    rw [one, List.map_const', List.sum_replicate_nat, Nat.mul_one]
  unfold Balanced
  rw [List.map_append, List.map_append, List.sum_append, List.sum_append, List.map_map,
    List.map_map, none, all]
  simp only [List.map_cons, List.map_nil, List.sum_singleton, Output.reported_returned,
    Output.parsedEvents_returned]
  omega

theorem balanced_error (latencyMicros : Nat) (fault : Option ChaosFault) :
    Balanced [.returned (RequestMetric.error latencyMicros fault)] :=
  rfl

namespace StatelessIteration

theorem balanced_start (now : Nat) (fault : Option ChaosFault) : Balanced (start now fault).2 := by
  unfold start
  split
  · exact balanced_error 0 _
  · exact balanced_nil
  · exact balanced_nil

theorem balanced_connected (now reqStart : Nat) (fault : Option ChaosFault) (statusCode : Nat) :
    Balanced (connected now reqStart fault statusCode).2 := by
  unfold connected
  split
  · exact (balanced_returned_iff _).mpr rfl
  · exact balanced_nil

theorem balanced_readChunk
    (now reqStart : Nat) (fault : Option ChaosFault) (statusCode totalBytes : Nat)
    (buffer : String) (bytes : List UInt8) :
    Balanced (readChunk now reqStart fault statusCode totalBytes buffer bytes).2 := by
  unfold readChunk
  dsimp only
  split
  · exact balanced_nil
  · exact (balanced_parsed_returned_iff _ _).mpr rfl

end StatelessIteration

variable {engine : SseEngine} {result : Worker × List Output}

theorem balanced_stepStateless {now : Nat} {iteration : Option StatelessIteration}
    {event : WorkerEvent} (taken : Worker.stepStateless engine now iteration event = some result) :
    Balanced result.2 := by
  unfold Worker.stepStateless at taken
  split at taken <;> cases taken
  · exact StatelessIteration.balanced_start now _
  · exact balanced_nil
  · exact StatelessIteration.balanced_connected now _ _ _
  · exact balanced_error _ _
  · exact StatelessIteration.balanced_readChunk now _ _ _ _ _ _
  · exact balanced_error _ _
  · exact (balanced_returned_iff _).mpr rfl
  · exact balanced_error _ _
  · exact balanced_nil

theorem SseSession.balanced_start_iff (session : SseSession) (now : Nat)
    (fault : Option ChaosFault) :
    Balanced (session.start now fault).2 ↔
      (session.isMaxReached = true → session.eventsReceived = 0) := by
  unfold start
  by_cases reached : session.isMaxReached = true
  · rw [if_pos reached]
    exact (balanced_returned_iff _).trans ⟨fun zero _ => zero, fun zero => zero reached⟩
  · rw [if_neg reached]
    refine ⟨fun _ spent => absurd spent reached, fun _ => ?_⟩
    split
    · exact balanced_nil
    · split
      · exact balanced_error 0 _
      · exact balanced_nil
      · exact balanced_nil

theorem SseSession.balanced_readChunk_iff
    (session : SseSession) (now iterationStart reqStart : Nat) (wasConnected : Bool)
    (fault : Option ChaosFault) (totalBytes : Nat) (bytes : List UInt8) :
    Balanced
        (session.readChunk now iterationStart reqStart wasConnected fault totalBytes
          bytes).2 ↔
      (parseSseChunk session.buffer (fromUtf8Lossy bytes)).1 = [] ∨
        (parseSseChunk session.buffer (fromUtf8Lossy bytes)).1.length =
          session.eventsReceived + 1 := by
  unfold readChunk
  dsimp only
  split
  · rename_i empty
    exact ⟨fun _ => Or.inl (List.isEmpty_iff.mp empty), fun _ => balanced_nil⟩
  · rename_i some
    have events : (parseSseChunk session.buffer (fromUtf8Lossy bytes)).1 ≠ [] :=
      fun none => some (List.isEmpty_iff.mpr none)
    rw [balanced_parsed_returned_iff, or_iff_right events]
    rfl

theorem SseSession.inStep_deadline (session : SseSession) (iteration : Option SessionIteration) :
    session.inStep iteration .deadline := by
  cases iteration with
  | none => exact True.intro
  | some suspended => cases suspended <;> exact True.intro

theorem SseSession.inStep_cancelled (session : SseSession) (iteration : Option SessionIteration) :
    session.inStep iteration .cancelled := by
  cases iteration with
  | none => exact True.intro
  | some suspended => cases suspended <;> exact True.intro

theorem balanced_stepPersistent_iff {now : Nat} {session : SseSession}
    {iteration : Option SessionIteration} {event : WorkerEvent}
    (taken : Worker.stepPersistent engine now session iteration event = some result) :
    Balanced result.2 ↔ session.inStep iteration event := by
  unfold Worker.stepPersistent at taken
  split at taken <;> cases taken
  · exact session.balanced_start_iff now _
  · exact iff_of_true balanced_nil True.intro
  · exact iff_of_true balanced_nil True.intro
  · exact iff_of_true (balanced_error _ _) True.intro
  · exact session.balanced_readChunk_iff now _ _ _ _ _ _
  · exact iff_of_true (balanced_error _ _) True.intro
  · exact balanced_returned_iff _
  · exact iff_of_true (balanced_error _ _) (session.inStep_deadline _)
  · exact iff_of_true balanced_nil (session.inStep_cancelled _)

theorem balanced_step_iff {worker : Worker} {action : WorkerAction}
    (taken : worker.step engine action = some result) :
    Balanced result.2 ↔ worker.inStep action := by
  cases worker with
  | stateless => exact iff_of_true (balanced_stepStateless taken) True.intro
  | persistent => exact balanced_stepPersistent_iff taken
  | ended => cases taken

def Run (engine : SseEngine) (guard : Worker → WorkerAction → Prop) (sessions : List Bool)
    (run : Tracked (List Worker) Output) : Prop :=
  Reaches (Tracked.step (oneOf (Worker.step engine))) (guardOf guard)
    (.start (sessions.map (Worker.new engine))) run

/-- As long as every step finds the counter at the number of events that it parses, the
summary has all events, in whatever order and at whatever times the metrics arrive. -/
theorem totalEventsReceived_eq_parsed
    {engine : SseEngine} {sessions : List Bool} {run : Tracked (List Worker) Output}
    (reached : Run engine Worker.inStep sessions run) {rounds : List Round}
    (received : (rounds.map Round.metric).Perm (metrics run.log))
    (hdr : HdrStatistics) (timelineIntervalMs : Nat) (started ended : Nat → Nat) :
    (finalizeMetrics hdr timelineIntervalMs started rounds ended).totalEventsReceived =
      (parsedEvents run.log).length := by
  have balanced : (run.log.map Output.reported).sum = (run.log.map Output.parsedEvents).sum :=
    Tracked.members_balanced Output.reported Output.parsedEvents
      (fun _ _ _ _ allowed taken => (balanced_step_iff taken).mpr allowed) rfl reached
  calc (finalizeMetrics hdr timelineIntervalMs started rounds ended).totalEventsReceived
      = ((rounds.map Round.metric).map RequestMetric.sseEvents).sum :=
        totalEventsReceived_finalizeMetrics hdr timelineIntervalMs started ended rounds
    _ = ((metrics run.log).map RequestMetric.sseEvents).sum :=
        (received.map RequestMetric.sseEvents).sum_eq
    _ = (run.log.map Output.reported).sum :=
        sum_map_filterMap Output.metric? RequestMetric.sseEvents run.log
    _ = (run.log.map Output.parsedEvents).sum := balanced
    _ = (parsedEvents run.log).length := (length_filterMap Output.event? run.log).symm

/-- One worker with a session and one without; the stream of the session fails after its
first event, and the event of the next stream is cut in two by the deadline. -/
theorem totalEventsReceived_eq_parsed_sample :
    ∃ run : Tracked (List Worker) Output,
      Run ⟨some 5, 5000000⟩ Worker.inStep [true, false] run ∧ (parsedEvents run.log).length = 4 ∧
        (finalizeMetrics .sample 0 0 (receivedAtOnce (metrics run.log)) 0).totalEventsReceived =
          4 := by
  refine
    Reaches.exists_and_of_executeChecked
      [(0, ⟨0, .begin none⟩), (1, ⟨1, .begin (some .metadataCorruption)⟩),
        (0, ⟨2, .connected 200⟩), (1, ⟨3, .connected 200⟩), (0, ⟨4, .chunk oneEvent⟩),
        (1, ⟨5, .chunk (oneEvent ++ oneEvent)⟩), (0, ⟨6, .begin none⟩), (0, ⟨7, .readFailed⟩),
        (0, ⟨8, .begin none⟩), (0, ⟨9, .connected 200⟩), (0, ⟨10, .chunk [100, 97]⟩),
        (0, ⟨11, .deadline⟩), (0, ⟨12, .begin none⟩),
        (0, ⟨13, .chunk [116, 97, 58, 97, 10, 10]⟩)]
      (by decide +kernel) (fun _ reached parsed => ?_)
  rw [totalEventsReceived_eq_parsed reached (perm_receivedAtOnce _) .sample 0 0 0]
  exact parsed

/-- Two chunks with one event each are reported as one and two events, and the end of the
stream reports two more. -/
theorem totalEventsReceived_counts_again :
    ∃ run : Tracked (List Worker) Output,
      Run ⟨none, 5000000⟩ unguarded [true] run ∧ (parsedEvents run.log).length = 2 ∧
        (finalizeMetrics .sample 0 0 (receivedAtOnce (metrics run.log)) 0).totalEventsReceived =
          5 :=
  Reaches.exists_of_executeChecked
    [(0, ⟨0, .begin none⟩), (0, ⟨1, .connected 200⟩), (0, ⟨2, .chunk oneEvent⟩),
      (0, ⟨3, .begin none⟩), (0, ⟨4, .chunk oneEvent⟩), (0, ⟨5, .begin none⟩),
      (0, ⟨6, .streamEnded⟩)]
    (by decide +kernel)

end Strobengine.Protocols.Sse
