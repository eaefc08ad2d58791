import Strobengine.Metrics.Sections
import Strobengine.Protocols.GraphqlWs.Session

/-!
# The number of messages

`messages_total` counts the metrics that report an interval. The first message after each subscribe
has none, and neither has a frame that arrives after corrupted-payload chaos.
-/

namespace Strobengine.Protocols.GraphqlWs

open Foundations Metrics

namespace Output

def metric? : Output → Option RequestMetric
  | .returned _ metric => some metric
  | _ => none

def next? : Output → Option RequestMetric
  | .returned (.onRead (.next _)) metric => some metric
  | _ => none

def nextFrames (output : Output) : Nat :=
  output.next?.elim 0 (fun _ => 1)

def intervals (output : Output) : Nat :=
  output.metric?.elim 0 RequestMetric.intervals

def first (output : Output) : Bool :=
  output.next?.any (fun metric => metric.intervals = 0)

end Output

def metrics (log : List Output) : List RequestMetric :=
  log.filterMap Output.metric?

def nextFrames (log : List Output) : List RequestMetric :=
  log.filterMap Output.next?

theorem Output.nextFrames_onRead {event : ReadEvent} (other : ∀ bytes, event ≠ .next bytes)
    (metric : RequestMetric) : Output.nextFrames (.returned (.onRead event) metric) = 0 := by
  cases event with
  | next bytes => exact absurd rfl (other bytes)
  | _ => rfl

theorem Output.nextFrames_of_first {output : Output} (first : output.first = true) :
    output.nextFrames = 1 := by
  unfold Output.first at first
  unfold Output.nextFrames
  cases next : output.next? with
  | none => simp [next] at first
  | some => rfl

theorem Output.silent_singleton {output : Output}
    (other : output.nextFrames = 0) (none : output.intervals = 0) :
    ∀ emitted ∈ [output], emitted.nextFrames = 0 ∧ emitted.intervals = 0 := by
  intro emitted member
  rw [List.mem_singleton.mp member]
  exact ⟨other, none⟩

def GraphqlWsSession.Remembers (session : GraphqlWsSession) : Prop :=
  session.lastMessageAt.isSome = true

structure Turn.Silent (before : GraphqlWsSession) (turn : Turn) : Prop where
  silent : ∀ output ∈ turn.emitted, output.nextFrames = 0 ∧ output.intervals = 0
  forgets : turn.session.Remembers → before.Remembers

def Turn.Message (before : GraphqlWsSession) (turn : Turn) : Prop :=
  ∃ output,
    turn.emitted = [output] ∧ output.nextFrames = 1 ∧ output.intervals ≤ 1 ∧
      (output.first = true ∧ output.intervals = 0 ∨ before.Remembers)

namespace GraphqlWsSession

theorem not_remembers_reset : ¬ GraphqlWsSession.Remembers {} := by
  simp [Remembers]

section Silent

variable (engine : GraphqlWsEngine) {session before : GraphqlWsSession} (iteration : Iteration)
  (now : Nat)
  (kept : session.Remembers → before.Remembers)

section

include kept

theorem silent_finish {ending : Ending} {metric : RequestMetric}
    (other : Output.nextFrames (.returned ending metric) = 0) (none : metric.intervals = 0) :
    Turn.Silent before (session.finish ending metric) where
  silent := Output.silent_singleton other none
  forgets := kept

theorem silent_suspend (await : Await) {emitted : List Output}
    (uses : ∀ output ∈ emitted, output.nextFrames = 0 ∧ output.intervals = 0) :
    Turn.Silent before (session.suspend iteration await emitted) :=
  ⟨uses, kept⟩

end

theorem silent_reset {ending : Ending} {metric : RequestMetric}
    (other : Output.nextFrames (.returned ending metric) = 0) (none : metric.intervals = 0) :
    Turn.Silent before (session.reset.finish ending metric) :=
  silent_finish (fun remembered => absurd remembered not_remembers_reset) other none

include kept

theorem silent_timedOut (purpose : Purpose) :
    Turn.Silent before (session.timedOut iteration now purpose) := by
  cases purpose with
  | init => exact silent_reset rfl rfl
  | corrupted | subscription => exact silent_finish kept rfl rfl

theorem silent_closed (purpose : Purpose) :
    Turn.Silent before (session.closed iteration now purpose) := by
  cases purpose with
  | init | subscription => exact silent_reset rfl rfl
  | corrupted => exact silent_finish kept rfl rfl

theorem silent_nextFrame (purpose : Purpose) (deadline : Nat) :
    Turn.Silent before (session.nextFrame iteration now purpose deadline) := by
  unfold nextFrame
  split
  · exact silent_timedOut iteration now kept purpose
  · split
    · exact silent_suspend iteration kept _ (Output.silent_singleton rfl rfl)
    · exact silent_closed iteration now kept purpose

theorem silent_send (request : Request) (message : Message) :
    Turn.Silent before (session.send iteration now request message) := by
  unfold send
  split
  · exact silent_suspend iteration kept _ (Output.silent_singleton rfl rfl)
  · exact silent_reset rfl rfl

theorem silent_exchange : Turn.Silent before (session.exchange engine iteration now) := by
  unfold exchange
  split
  · exact silent_send iteration now kept _ _
  · split
    · exact silent_nextFrame iteration now kept _ _
    · split
      · exact silent_finish kept rfl rfl
      · exact silent_send iteration now kept _ _

theorem silent_ensureInitialized :
    Turn.Silent before (session.ensureInitialized engine iteration now) := by
  unfold ensureInitialized
  split
  · exact silent_exchange engine iteration now kept
  · exact silent_send iteration now kept _ _

theorem silent_ensureConnected :
    Turn.Silent before (session.ensureConnected engine iteration now) := by
  unfold ensureConnected
  split
  · exact silent_ensureInitialized engine iteration now kept
  · exact silent_suspend iteration kept _ (by simp)

theorem silent_runIteration : Turn.Silent before (session.runIteration engine iteration now) := by
  unfold runIteration
  split
  · exact silent_finish kept rfl rfl
  · exact silent_suspend iteration kept _ (by simp)
  · exact silent_ensureConnected engine iteration now kept

theorem silent_connected : Turn.Silent before (session.connected engine iteration now) := by
  have initialized :
      Turn.Silent before
        (ensureInitialized engine { session with stream := true } iteration now) :=
    silent_ensureInitialized engine iteration now kept
  refine ⟨?_, initialized.forgets⟩
  intro output member
  rcases List.mem_cons.mp member with rfl | later
  · exact ⟨rfl, rfl⟩
  · exact initialized.silent output later

theorem silent_sent (request : Request) :
    Turn.Silent before (session.sent engine iteration now request) := by
  cases request with
  | init | corrupted => exact silent_nextFrame iteration now kept _ _
  | subscribe =>
    apply silent_nextFrame
    intro remembered
    cases remembered

end Silent

section Events

variable (engine : GraphqlWsEngine) (session : GraphqlWsSession) (iteration : Iteration) (now : Nat)

theorem intervals_message (operations : Option Nat) (bytes : Nat) :
    ∃ metric,
      (session.message iteration now operations bytes).emitted =
          [.returned (.onRead (.next bytes)) metric] ∧
        metric.intervals = if session.lastMessageAt.isSome then 1 else 0 := by
  refine ⟨_, rfl, ?_⟩
  cases remembered : session.lastMessageAt with
  | none | some => simp [Iteration.success, RequestMetric.intervals, ProtocolSample.graphqlWs?]

theorem message_message (operations : Option Nat) (bytes : Nat) :
    Turn.Message session (session.message iteration now operations bytes) := by
  obtain ⟨metric, emitted, intervals⟩ := session.intervals_message iteration now operations bytes
  refine ⟨_, emitted, rfl, ?_, ?_⟩
  · change metric.intervals ≤ 1
    rw [intervals]
    split <;> omega
  · by_cases remembered : session.lastMessageAt.isSome = true
    · exact Or.inr remembered
    · rw [if_neg remembered] at intervals
      refine Or.inl ⟨?_, intervals⟩
      simp [Output.first, Output.next?, intervals]

theorem counted_onEvent (deadline : Nat) (purpose : Purpose) (event : ReadEvent) :
    Turn.Silent session (session.onEvent engine iteration now deadline purpose event) ∨
      Turn.Message session (session.onEvent engine iteration now deadline purpose event) := by
  unfold onEvent
  split
  · exact Or.inl (silent_timedOut iteration now id _)
  · exact Or.inl (silent_closed iteration now id _)
  · exact Or.inl (silent_exchange engine iteration now id)
  · exact Or.inl (silent_reset rfl rfl)
  · exact Or.inl (silent_nextFrame iteration now id _ _)
  · -- a frame after a corrupted payload has no sample
    exact Or.inr ⟨_, rfl, rfl, Nat.zero_le 1, Or.inl ⟨rfl, rfl⟩⟩
  · rename_i other
    exact Or.inl (silent_finish id (Output.nextFrames_onRead other _) rfl)
  · exact Or.inr (session.message_message iteration now _ _)
  · exact Or.inl ⟨Output.silent_singleton rfl rfl, id⟩
  · exact Or.inl ⟨Output.silent_singleton rfl rfl, id⟩
  · exact Or.inl (silent_finish id rfl rfl)
  · exact Or.inl (silent_reset rfl rfl)

theorem counted_received (purpose : Purpose) (deadline : Nat) (message : Message) :
    Turn.Silent session (session.received engine iteration now purpose deadline message) ∨
      Turn.Message session
        (session.received engine iteration now purpose deadline message) := by
  unfold received
  split
  · exact session.counted_onEvent engine iteration now deadline purpose _
  · refine Or.inl ?_
    split
    · exact silent_suspend iteration id _ (Output.silent_singleton rfl rfl)
    · exact silent_nextFrame iteration now id _ _
  · exact Or.inl (silent_nextFrame iteration now id _ _)

end Events

end GraphqlWsSession

namespace Worker

open GraphqlWsSession

theorem counted_resume
    {engine : GraphqlWsEngine} {session : GraphqlWsSession} {iteration : Iteration}
    {now : Nat} {await : Await} {event : WorkerEvent} {turn : Turn}
    (resumed : resume engine session iteration now await event = some turn) :
    turn.Silent session ∨ turn.Message session := by
  unfold resume at resumed
  split at resumed
  case h_6 => 
    cases resumed
    exact session.counted_received engine iteration now _ _ _
  case h_8 =>
    split at resumed <;> cases resumed
    exact Or.inl (silent_timedOut iteration now id _)
  all_goals cases resumed
  all_goals refine Or.inl ?_
  · exact silent_ensureConnected engine iteration now id
  · exact silent_connected engine iteration now id
  · exact silent_reset rfl rfl
  · exact silent_sent engine iteration now id _
  · exact silent_reset rfl rfl
  · exact silent_closed iteration now id _
  · exact silent_nextFrame iteration now id _ _
  · exact silent_nextFrame iteration now id _ _
  · exact silent_finish id rfl rfl
  · exact silent_finish id rfl rfl

theorem remembers_take {worker : Worker} {turn : Turn}
    (remembered : (worker.take turn).1.session.Remembers) : turn.session.Remembers := by
  unfold take at remembered
  dsimp only at remembered
  split at remembered
  · exact remembered
  · exact absurd remembered not_remembers_reset

theorem counted_advance {engine : GraphqlWsEngine} {worker : Worker} {now : Nat}
    {suspended : Option (Iteration × Await)} {event : WorkerEvent} {result : Worker × List Output}
    (taken : worker.advance engine now suspended event = some result) :
    ∃ turn : Turn,
      (turn.Silent worker.session ∨ turn.Message worker.session) ∧
        turn.emitted = result.2 ∧ (result.1.session.Remembers → turn.session.Remembers) := by
  unfold advance at taken
  split at taken
  · cases taken
    refine ⟨⟨worker.session, none, []⟩, Or.inl ⟨?_, id⟩, rfl, id⟩
    intro output member
    cases member
  · rename_i fault
    cases taken
    exact ⟨_, Or.inl (silent_runIteration engine ⟨now, fault⟩ now id), rfl, remembers_take⟩
  · cases taken
  · obtain ⟨turn, resumed, rfl⟩ := Option.map_eq_some_iff.mp taken
    exact ⟨turn, counted_resume resumed, rfl, remembers_take⟩

def Counting (worker : Worker) (log : List Output) : Prop :=
  worker.session.Remembers → ∃ output ∈ log, output.first = true

end Worker

structure Undercounted (log : List Output) : Prop where
  counted : (log.map Output.intervals).sum ≤ (log.map Output.nextFrames).sum
  missing :
    (∃ output ∈ log, output.first = true) →
      (log.map Output.intervals).sum < (log.map Output.nextFrames).sum
  begins : 0 < (log.map Output.nextFrames).sum → ∃ output ∈ log, output.first = true

namespace Undercounted

theorem nil : Undercounted [] where
  counted := Nat.le_refl 0
  missing := by simp
  begins := by simp

theorem silent {log emitted : List Output} (holds : Undercounted log)
    (silent : ∀ output ∈ emitted, output.nextFrames = 0 ∧ output.intervals = 0) :
    Undercounted (log ++ emitted) := by
  have frames : (emitted.map Output.nextFrames).sum = 0 := by
    apply List.sum_eq_zero
    rintro _ weight
    obtain ⟨output, member, rfl⟩ := List.mem_map.mp weight
    exact (silent output member).1
  have intervals : (emitted.map Output.intervals).sum = 0 := by
    apply List.sum_eq_zero
    rintro _ weight
    obtain ⟨output, member, rfl⟩ := List.mem_map.mp weight
    exact (silent output member).2
  have old :
      (∃ output ∈ log ++ emitted, output.first = true) → ∃ output ∈ log, output.first = true := by
    rintro ⟨output, member, first⟩
    rcases List.mem_append.mp member with before | new
    · exact ⟨output, before, first⟩
    · have counts := Output.nextFrames_of_first first
      have none := (silent output new).1
      omega
  constructor
  · simpa [frames, intervals] using holds.counted
  · intro first
    simpa [frames, intervals] using holds.missing (old first)
  · intro positive
    obtain ⟨output, member, first⟩ := holds.begins (by simpa [frames] using positive)
    exact ⟨output, List.mem_append_left _ member, first⟩

theorem message {log : List Output} {output : Output} (holds : Undercounted log)
    (frame : output.nextFrames = 1) (interval : output.intervals ≤ 1)
    (cause : output.first = true ∧ output.intervals = 0 ∨ ∃ earlier ∈ log, earlier.first = true) :
    Undercounted (log ++ [output]) := by
  have counted := holds.counted
  have smaller :
      ((log ++ [output]).map Output.intervals).sum <
        ((log ++ [output]).map Output.nextFrames).sum := by
    simp only [List.map_append, List.map_cons, List.map_nil, List.sum_append, List.sum_singleton]
    rcases cause with ⟨_, none⟩ | earlier
    · omega
    · have missing := holds.missing earlier
      omega
  refine ⟨smaller.le, fun _ => smaller, fun _ => ?_⟩
  rcases cause with ⟨first, _⟩ | ⟨earlier, member, first⟩
  · exact ⟨output, by simp, first⟩
  · exact ⟨earlier, List.mem_append_left _ member, first⟩

end Undercounted

theorem Worker.counted_step
    {engine : GraphqlWsEngine} {worker moved : Worker} {log emitted : List Output}
    {action : WorkerAction} (counting : worker.Counting log) (holds : Undercounted log)
    (taken : worker.step engine action = some (moved, emitted)) :
    moved.Counting (log ++ emitted) ∧ Undercounted (log ++ emitted) := by
  cases running : worker.running with
  | false => simp [step, running] at taken
  | true =>
    rw [step, if_pos running] at taken
    obtain ⟨turn, counted, same, remembers⟩ := counted_advance taken
    dsimp only at same remembers
    subst same
    rcases counted with quiet | ⟨output, single, frame, interval, cause⟩
    · refine ⟨?_, holds.silent quiet.silent⟩
      intro remembered
      obtain ⟨output, member, first⟩ := counting (quiet.forgets (remembers remembered))
      exact ⟨output, List.mem_append_left _ member, first⟩
    · have cause :
          output.first = true ∧ output.intervals = 0 ∨ ∃ earlier ∈ log, earlier.first = true :=
        cause.imp_right counting
      rw [single]
      refine ⟨fun _ => ?_, holds.message frame interval cause⟩
      rcases cause with ⟨first, _⟩ | ⟨earlier, member, first⟩
      · exact ⟨output, by simp, first⟩
      · exact ⟨earlier, List.mem_append_left _ member, first⟩

def Run (engine : GraphqlWsEngine) (sessions : List Bool)
    (run : Tracked (List Worker) Output) : Prop :=
  Reaches (Tracked.step (oneOf (Worker.step engine))) (guardOf unguarded)
    (.start (sessions.map Worker.new)) run

theorem undercounted_of_run
    {engine : GraphqlWsEngine} {sessions : List Bool} {run : Tracked (List Worker) Output}
    (reached : Run engine sessions run) : Undercounted run.log := by
  have holds :=
    Tracked.members_invariant Worker.Counting Undercounted
      (by
        intro worker log emitted counting remembered
        obtain ⟨output, member, first⟩ := counting remembered
        exact ⟨output, List.mem_append_left _ member, first⟩)
      (fun _ _ _ _ _ counting holds _ taken => Worker.counted_step counting holds taken)
      (by
        intro worker member remembered
        obtain ⟨persistent, _, rfl⟩ := List.mem_map.mp member
        exact absurd remembered GraphqlWsSession.not_remembers_reset)
      .nil reached
  exact holds.2

/-- In every run, `messages_total` is the number of `next` frames only if there is none. -/
theorem messagesTotal_eq_nextFrames_iff
    {engine : GraphqlWsEngine} {sessions : List Bool} {run : Tracked (List Worker) Output}
    (reached : Run engine sessions run) {rounds : List Round}
    (received : (rounds.map Round.metric).Perm (metrics run.log))
    (hdr : HdrStatistics) (timelineIntervalMs : Nat) (started ended : Nat → Nat) :
    (finalizeMetrics hdr timelineIntervalMs started rounds ended).messagesTotal =
        (nextFrames run.log).length ↔
      nextFrames run.log = [] := by
  have holds := undercounted_of_run reached
  have total :
      (finalizeMetrics hdr timelineIntervalMs started rounds ended).messagesTotal =
        (run.log.map Output.intervals).sum := by
    rw [messagesTotal_finalizeMetrics, (received.map RequestMetric.intervals).sum_eq]
    exact sum_map_filterMap Output.metric? RequestMetric.intervals run.log
  have frames : (nextFrames run.log).length = (run.log.map Output.nextFrames).sum :=
    length_filterMap Output.next? run.log
  rw [total, ← List.length_eq_zero_iff, frames]
  have counted := holds.counted
  constructor
  · intro equal
    by_contra positive
    have missing := holds.missing (holds.begins (Nat.pos_of_ne_zero positive))
    omega
  · intro none
    omega

def completedSubscription (worker : Nat) : List (Nat × WorkerAction) :=
  [(worker, ⟨0, .begin none⟩), (worker, ⟨1, .connected⟩), (worker, ⟨2, .sent⟩),
    (worker, ⟨3, .message (.text "connection_ack")⟩), (worker, ⟨4, .sent⟩),
    (worker, ⟨5, .message (.text "complete")⟩)]

theorem messagesTotal_eq_nextFrames_iff_sample :
    ∃ run : Tracked (List Worker) Output,
      Run .sample [true, false] run ∧ (metrics run.log).length = 2 ∧
        (finalizeMetrics .sample 0 0 (receivedAtOnce (metrics run.log)) 0).messagesTotal =
          (nextFrames run.log).length := by
  refine
    Reaches.exists_imp_of_executeChecked
      (fun run => (metrics run.log).length = 2 ∧ nextFrames run.log = [])
      (completedSubscription 0 ++ completedSubscription 1)
      (by decide +kernel) ?_
  rintro run reached ⟨returned, none⟩
  exact
    ⟨returned,
      (messagesTotal_eq_nextFrames_iff reached (perm_receivedAtOnce _) .sample 0 0 0).mpr none⟩

/-- Of the two messages of a subscription only the second is counted. -/
theorem messagesTotal_omits_first :
    ∃ run : Tracked (List Worker) Output,
      Run .sample [true] run ∧ (nextFrames run.log).length = 2 ∧
        (finalizeMetrics .sample 0 0 (receivedAtOnce (metrics run.log)) 0).messagesTotal = 1 :=
  Reaches.exists_of_executeChecked
    ((firstMessage 0).map (fun action => (0, action)) ++
      [(0, ⟨1, .begin none⟩), (0, ⟨2, .message (.text "next")⟩)])
    (by decide +kernel)

end Strobengine.Protocols.GraphqlWs
