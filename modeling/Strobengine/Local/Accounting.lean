import Strobengine.Local.Joining

/-!
# What the totals of a local run count

An iteration adds to `total_requests` when it begins, and to a status code when its metric is
received. In between it is in flight, its metric is being sent or queued, or it has been dropped by
a cancellation or a panic.
-/

namespace Strobengine.Local

open Metrics Foundations Rust

def WorkerPhase.inFlight : WorkerPhase → Bool
  | .iterating => true
  | .sending _ => true
  | _ => false

def WorkerPhase.holdsError : WorkerPhase → Bool
  | .sending metric => metric.isError
  | _ => false

namespace WorkerTask

def inFlight (worker : WorkerTask) : Bool :=
  worker.phase.inFlight

def holdsError (worker : WorkerTask) : Bool :=
  worker.phase.holdsError

section Step

variable {timeoutMicros : Nat} {cancelled : Bool} {channel : ChannelState}
  {worker moved : WorkerTask} {action : WorkerAction} {event : WorkerEvent}

theorem step_conserves_requests
    (stepped : worker.step timeoutMicros cancelled channel action = some (moved, event))
    (unclosed : channel ≠ .closed) (counters : LiveCounters) :
    (event.count counters).totalRequests + worker.inFlight.toNat =
      counters.totalRequests + moved.inFlight.toNat + event.enqueued.length + event.dropped := by
  unfold step at stepped
  repeat' split at stepped
  all_goals cases stepped
  all_goals simp_all [inFlight, WorkerPhase.inFlight, WorkerEvent.count, WorkerEvent.enqueued,
    WorkerEvent.dropped, LiveCounters.complete]

theorem step_conserves_errors
    (stepped : worker.step timeoutMicros cancelled channel action = some (moved, event))
    (unclosed : channel ≠ .closed) (counters : LiveCounters) :
    (event.count counters).errors + worker.holdsError.toNat =
      counters.errors + moved.holdsError.toNat + event.enqueued.countP RequestMetric.isError := by
  unfold step at stepped
  repeat' split at stepped
  all_goals cases stepped
  all_goals simp_all [holdsError, WorkerPhase.holdsError, WorkerEvent.count, WorkerEvent.enqueued,
    LiveCounters.complete]
  all_goals split <;> simp_all

theorem dropped_of_step
    (stepped : worker.step timeoutMicros cancelled channel action = some (moved, event))
    (dropped : event.dropped ≠ 0) :
    worker.phase = .iterating ∧ (cancelled = true ∨ action = .panic) := by
  unfold step at stepped
  repeat' split at stepped
  all_goals cases stepped
  all_goals simp_all [WorkerEvent.dropped]

theorem not_cancelled_of_iterating
    (stepped : worker.step timeoutMicros cancelled channel action = some (moved, event))
    (iterating : moved.phase = .iterating) :
    cancelled = false := by
  unfold step at stepped
  repeat' split at stepped
  all_goals cases stepped
  all_goals simp_all

end Step

end WorkerTask

open WorkerTask (inFlight holdsError)

def Phase.reported : Phase → Bool
  | .collecting _ _ _ => true
  | .returned (some _) => true
  | _ => false

theorem Phase.joinedAll_of_reported {phase : Phase} (reported : phase.reported = true) :
    phase.joinedAll = true := by
  cases phase <;> first | rfl | cases reported

namespace RunState

/-- Where the iterations of a run are, as long as the aggregator is alive. -/
structure Ledger (state : RunState) : Prop where
  requests :
    state.counters.totalRequests =
      state.received.length + state.queue.length +
        state.workers.countP inFlight + state.abandoned
  errors :
    state.counters.errors =
      state.received.countP RequestMetric.isError + state.queue.countP RequestMetric.isError +
        state.workers.countP holdsError

structure Accounted (params : RunParams) (state : RunState) : Prop where
  receiving :
    ∀ metrics, state.aggregator = .receiving metrics →
      Ledger state ∧ metrics = AggregatedMetrics.ofReceived state.received
  finished :
    ∀ metrics, state.aggregator = .finished metrics →
      Ledger state ∧ metrics = AggregatedMetrics.ofReceived state.received ∧
        state.queue = [] ∧ state.sendersDropped = true
  collecting :
    ∀ totalRequests totalErrors elapsed,
      state.phase = .collecting totalRequests totalErrors elapsed →
        totalRequests = state.counters.totalRequests ∧ totalErrors = state.counters.errors
  returned :
    ∀ summary, state.phase = .returned (some summary) →
      ∃ elapsed metrics,
        state.aggregator = .finished metrics ∧
          summary =
            summarise params state.counters.totalRequests state.counters.errors elapsed
              metrics

theorem accounted_new (params : RunParams) : Accounted params (new params) where
  receiving := by
    intro metrics receiving
    cases receiving
    exact ⟨⟨rfl, rfl⟩, rfl⟩
  finished := by
    intro metrics finished
    cases finished
  collecting := by
    intro totalRequests totalErrors elapsed phase
    unfold new at phase
    cases strategy : params.strategy <;> rw [strategy] at phase <;> cases phase
  returned := by
    intro summary phase
    unfold new at phase
    cases strategy : params.strategy <;> rw [strategy] at phase <;> cases phase

section Preservation

variable {params : RunParams} {state next : RunState} {action : RunAction}

private structure Frame (state next : RunState) : Prop where
  phases : next.workers.map WorkerTask.phase = state.workers.map WorkerTask.phase
  counters : next.counters = state.counters
  received : next.received = state.received
  queue : next.queue = state.queue
  abandoned : next.abandoned = state.abandoned
  aggregator : next.aggregator = state.aggregator

private theorem Ledger.of_frame (ledger : Ledger state) (frame : Frame state next) :
    Ledger next := by
  have count (selected : WorkerPhase → Bool) :
      next.workers.countP (fun worker => selected worker.phase) =
        state.workers.countP (fun worker => selected worker.phase) := by
    have mapped := congrArg (List.countP selected) frame.phases
    rw [List.countP_map, List.countP_map] at mapped
    exact mapped
  have inFlight :
      next.workers.countP inFlight = state.workers.countP inFlight :=
    count WorkerPhase.inFlight
  have holdsError :
      next.workers.countP holdsError = state.workers.countP holdsError :=
    count WorkerPhase.holdsError
  refine
    { requests := ?_
      errors := ?_ }
  · rw [frame.counters, frame.received, frame.queue, frame.abandoned, inFlight]
    exact ledger.requests
  · rw [frame.counters, frame.received, frame.queue, holdsError]
    exact ledger.errors

private theorem sendersDropped_of_frame (frame : Frame state next)
    (senders : state.phase.holdsSender = false → next.phase.holdsSender = false)
    (dropped : state.sendersDropped = true) :
    next.sendersDropped = true := by
  have ended :
      next.workers.all (fun worker => decide (worker.phase = .finished)) =
        state.workers.all (fun worker => decide (worker.phase = .finished)) := by
    have mapped :=
      congrArg (fun phases => phases.all (fun phase => decide (phase = .finished)))
        frame.phases
    simp only [List.all_map] at mapped
    exact mapped
  unfold sendersDropped at dropped ⊢
  rw [Bool.and_eq_true, Bool.not_eq_true'] at dropped ⊢
  exact ⟨senders dropped.1, ended.trans dropped.2⟩

private theorem Ledger.of_worker
    {index : Nat} {worker moved : WorkerTask} {event : WorkerEvent} {action : WorkerAction}
    {timeoutMicros : Nat} {cancelled : Bool}
    (ledger : Ledger state) (found : state.workers[index]? = some worker)
    (stepped : worker.step timeoutMicros cancelled state.channelState action = some (moved, event))
    (unclosed : state.channelState ≠ .closed) :
    Ledger ((state.setWorker index moved).record event) where
  requests := by
    have conserved := WorkerTask.step_conserves_requests stepped unclosed state.counters
    have changed := countP_set inFlight moved found
    have before := ledger.requests
    simp only [record, setWorker, List.length_append]
    omega
  errors := by
    have conserved := WorkerTask.step_conserves_errors stepped unclosed state.counters
    have changed := countP_set holdsError moved found
    have before := ledger.errors
    simp only [record, setWorker, List.countP_append]
    omega

private theorem Accounted.of_frame (accounted : Accounted params state) (frame : Frame state next)
    (senders : state.phase.holdsSender = false → next.phase.holdsSender = false)
    (collecting :
      ∀ totalRequests totalErrors elapsed,
        next.phase = .collecting totalRequests totalErrors elapsed →
          totalRequests = state.counters.totalRequests ∧ totalErrors = state.counters.errors)
    (returned :
      ∀ summary, next.phase = .returned (some summary) →
        ∃ elapsed metrics,
          state.aggregator = .finished metrics ∧
            summary =
              summarise params state.counters.totalRequests state.counters.errors elapsed
                metrics) :
    Accounted params next where
  receiving := by
    intro metrics receiving
    rw [frame.aggregator] at receiving
    obtain ⟨ledger, aggregated⟩ := accounted.receiving metrics receiving
    rw [frame.received]
    exact ⟨ledger.of_frame frame, aggregated⟩
  finished := by
    intro metrics finished
    rw [frame.aggregator] at finished
    obtain ⟨ledger, aggregated, empty, dropped⟩ := accounted.finished metrics finished
    rw [frame.received, frame.queue]
    exact ⟨ledger.of_frame frame, aggregated, empty, sendersDropped_of_frame frame senders dropped⟩
  collecting := by
    rw [frame.counters]
    exact collecting
  returned := by
    rw [frame.counters, frame.aggregator]
    exact returned

private theorem Accounted.of_unreported
    (accounted : Accounted params state) (frame : Frame state next)
    (senders : state.phase.holdsSender = false → next.phase.holdsSender = false)
    (unreported : next.phase.reported = false) :
    Accounted params next := by
  apply accounted.of_frame frame senders
  · intro totalRequests totalErrors elapsed collecting
    rw [collecting] at unreported
    cases unreported
  · intro summary returned
    rw [returned] at unreported
    cases unreported

private theorem Accounted.of_spawn {duration : Nat}
    (accounted : Accounted params state) (holdsSender : state.phase.holdsSender = true)
    (workers : next.workers = (state.spawnWorker duration).workers)
    (counters : next.counters = state.counters) (received : next.received = state.received)
    (queue : next.queue = state.queue) (abandoned : next.abandoned = state.abandoned)
    (aggregator : next.aggregator = state.aggregator) (unreported : next.phase.reported = false) :
    Accounted params next where
  receiving := by
    intro metrics receiving
    rw [aggregator] at receiving
    obtain ⟨ledger, aggregated⟩ := accounted.receiving metrics receiving
    refine ⟨⟨?_, ?_⟩, ?_⟩
    · rw [counters, received, queue, abandoned, workers, spawnWorker, List.countP_append]
      exact ledger.requests
    · rw [counters, received, queue, workers, spawnWorker, List.countP_append]
      exact ledger.errors
    · rw [received]
      exact aggregated
  finished := by
    intro metrics finished
    rw [aggregator] at finished
    obtain ⟨_, _, _, dropped⟩ := accounted.finished metrics finished
    rw [sendersDropped, holdsSender] at dropped
    cases dropped
  collecting := by
    intro totalRequests totalErrors elapsed collecting
    rw [collecting] at unreported
    cases unreported
  returned := by
    intro summary returned
    rw [returned] at unreported
    cases unreported

private theorem Accounted.of_worker
    {index : Nat} {worker moved : WorkerTask} {event : WorkerEvent} {action : WorkerAction}
    (accounted : Accounted params state) (joining : Joining state)
    (found : state.workers[index]? = some worker)
    (stepped :
      worker.step params.timeoutMicros (worker.cancelled || state.cancelled)
        state.channelState action = some (moved, event)) :
    Accounted params ((state.setWorker index moved).record event) := by
  have unfinished := WorkerTask.unfinished_of_step stepped
  have unjoined : state.phase.joinedAll ≠ true := fun done => unfinished (joining.ended done found)
  refine
    { receiving := ?_
      finished := ?_
      collecting := ?_
      returned := ?_ }
  · intro metrics receiving
    obtain ⟨ledger, aggregated⟩ := accounted.receiving metrics receiving
    have unclosed : state.channelState ≠ .closed := by
      rw [channelState, show state.aggregator = .receiving metrics from receiving]
      dsimp only
      split <;> exact fun closed => nomatch closed
    exact ⟨ledger.of_worker found stepped unclosed, aggregated⟩
  · intro metrics finished
    obtain ⟨_, _, _, dropped⟩ := accounted.finished metrics finished
    simp only [sendersDropped, Bool.and_eq_true, List.all_eq_true, decide_eq_true_eq] at dropped
    exact False.elim (unfinished (dropped.2 worker (List.mem_of_getElem? found)))
  · intro totalRequests totalErrors elapsed collecting
    have here : state.phase = .collecting totalRequests totalErrors elapsed := collecting
    exact False.elim (unjoined (by rw [here]; rfl))
  · intro summary returned
    have here : state.phase = .returned (some summary) := returned
    exact False.elim (unjoined (by rw [here]; rfl))

private theorem frame_phase (phase : Phase) : Frame state { state with phase } :=
  ⟨rfl, rfl, rfl, rfl, rfl, rfl⟩

private theorem phases_join {handle : Nat} {worker : WorkerTask}
    (found : state.workers[handle]? = some worker) :
    (state.setWorker handle { worker with joined := true }).workers.map WorkerTask.phase =
      state.workers.map WorkerTask.phase := by
  apply map_set_of_eq found
  rfl

private theorem phases_cancelWorker (token : Nat) :
    (state.cancelWorker token).workers.map WorkerTask.phase =
      state.workers.map WorkerTask.phase := by
  simp only [cancelWorker]
  split
  · rfl
  · rename_i worker found
    apply map_set_of_eq found
    rfl

private theorem Accounted.receive {metrics : AggregatedMetrics} {metric : RequestMetric}
    {rest : List RequestMetric} (accounted : Accounted params state)
    (receiving : state.aggregator = .receiving metrics) (queued : state.queue = metric :: rest) :
    Accounted params
      { state with
        aggregator := .receiving (metrics.receive metric)
        queue := rest
        received := state.received ++ [metric] } := by
  obtain ⟨ledger, aggregated⟩ := accounted.receiving metrics receiving
  have requests := ledger.requests
  have errors := ledger.errors
  rw [queued] at requests errors
  refine
    { receiving := ?_
      finished := fun _ finished => nomatch finished
      collecting := accounted.collecting
      returned := ?_ }
  · intro others same
    cases same
    refine ⟨⟨?_, ?_⟩, ?_⟩
    · simp only [List.length_append, List.length_cons, List.length_nil] at requests ⊢
      omega
    · simp only [List.countP_append, List.countP_cons, List.countP_nil] at errors ⊢
      omega
    · rw [AggregatedMetrics.ofReceived_concat, aggregated]
  · intro summary returned
    obtain ⟨_, _, finished, _⟩ := accounted.returned summary returned
    rw [receiving] at finished
    cases finished

private theorem Accounted.stop {metrics : AggregatedMetrics} {stopped : Aggregator}
    {queue : List RequestMetric} (accounted : Accounted params state)
    (receiving : state.aggregator = .receiving metrics)
    (notReceiving : ∀ others, stopped ≠ .receiving others)
    (finished :
      ∀ others, stopped = .finished others →
        others = metrics ∧ queue = state.queue ∧ queue = [] ∧ state.sendersDropped = true) :
    Accounted params { state with aggregator := stopped, queue } := by
  obtain ⟨ledger, aggregated⟩ := accounted.receiving metrics receiving
  refine
    { receiving := fun others same => False.elim (notReceiving others same)
      finished := ?_
      collecting := accounted.collecting
      returned := ?_ }
  · intro others same
    obtain ⟨unchanged, kept, empty, dropped⟩ := finished others same
    subst kept
    exact ⟨⟨ledger.requests, ledger.errors⟩, unchanged.trans aggregated, empty, dropped⟩
  · intro summary returned
    obtain ⟨_, _, finished, _⟩ := accounted.returned summary returned
    rw [receiving] at finished
    cases finished

theorem Accounted.of_move (accounted : Accounted params state) (joining : Joining state)
    (move : Move params state action next) : Accounted params next := by
  cases move with
  | worker index action worker moved event found stepped =>
    exact accounted.of_worker joining found stepped
  | spawn spawned concurrency durationSecs spawning =>
    exact accounted.of_spawn (by rw [spawning]; rfl) rfl rfl rfl rfl rfl rfl rfl
  | spawnedAll | awaited | tornDown | reportInterrupted | collectFailed =>
    exact accounted.of_unreported (frame_phase _) (fun _ => rfl) rfl
  | joinAwaited handle remaining worker awaiting found =>
    exact accounted.of_unreported ⟨phases_join found, rfl, rfl, rfl, rfl, rfl⟩ (fun _ => rfl) rfl
  | scaleUp elapsed target scaling =>
    refine accounted.of_spawn (by rw [scaling]; rfl) rfl rfl rfl rfl rfl rfl ?_
    rw [show (state.scaleUp params elapsed).phase = state.phase from rfl, scaling]
    rfl
  | scaleDown elapsed target scaling =>
    unfold scaleDown
    split
    · exact accounted
    · rename_i token last
      refine accounted.of_unreported ⟨phases_cancelWorker token, rfl, rfl, rfl, rfl, rfl⟩ id ?_
      simp only [cancelWorker, scaling]
      rfl
  | joinReaped elapsed target handle remaining worker reaping reaped found =>
    refine accounted.of_unreported ⟨phases_join found, rfl, rfl, rfl, rfl, rfl⟩ id ?_
    simp only [setWorker, reaping]
    rfl
  | cancelToken token remaining cancelling =>
    refine accounted.of_unreported ⟨phases_cancelWorker token, rfl, rfl, rfl, rfl, rfl⟩ ?_ rfl
    rw [cancelling]
    exact id
  | joinTorn handle remaining worker tearing found =>
    refine accounted.of_unreported ⟨phases_join found, rfl, rfl, rfl, rfl, rfl⟩ ?_ rfl
    rw [tearing]
    exact id
  | report =>
    refine
      accounted.of_frame (frame_phase _) (fun _ => rfl) ?_
        (fun _ returned => by cases returned)
    intro totalRequests totalErrors reading same
    cases same
    exact ⟨rfl, rfl⟩
  | collect totalRequests totalErrors elapsed aggregated collecting finished =>
    obtain ⟨requests, errors⟩ := accounted.collecting totalRequests totalErrors elapsed collecting
    refine
      accounted.of_frame (frame_phase _) (fun _ => rfl)
        (fun _ _ _ collecting => by cases collecting) ?_
    intro summary same
    cases same
    rw [requests, errors]
    exact ⟨elapsed, aggregated, finished, rfl⟩
  | receive metrics metric rest receiving queued => exact accounted.receive receiving queued
  | finish metrics receiving empty dropped =>
    refine accounted.stop receiving (fun _ same => by cases same) ?_
    intro others same
    cases same
    exact ⟨rfl, rfl, empty, dropped⟩
  | aggregatorPanic metrics receiving =>
    exact accounted.stop receiving (fun _ same => by cases same) (fun _ same => by cases same)
  | signal | cancelAll =>
    exact
      accounted.of_frame ⟨rfl, rfl, rfl, rfl, rfl, rfl⟩ id accounted.collecting
        accounted.returned
  | _ => exact accounted.of_unreported (frame_phase _) (by rw [‹state.phase = _›]; exact id) rfl

end Preservation

theorem accounted_of_reaches
    {params : RunParams} {guard : RunState → RunAction → Prop} {state : RunState}
    (reached : Reaches (step params) guard (new params) state) :
    Accounted params state := by
  have both : Joining state ∧ Accounted params state := by
    refine
      reached.invariant (fun state => Joining state ∧ Accounted params state) ?_
        ⟨joining_new params, accounted_new params⟩
    intro before action after holds _ taken
    have move := move_of_step taken
    exact ⟨holds.1.of_move move, holds.2.of_move holds.1 move⟩
  exact both.2

theorem summary_counts_received
    {params : RunParams} {guard : RunState → RunAction → Prop} {state : RunState}
    {summary : TestSummary} (reached : Reaches (step params) guard (new params) state)
    (returned : state.phase = .returned (some summary)) :
    state.aggregator = .finished (AggregatedMetrics.ofReceived state.received) ∧
      summary.totalRequests = state.received.length + state.abandoned ∧
      summary.totalErrors = state.received.countP RequestMetric.isError ∧
      summary.statusCodes = (AggregatedMetrics.ofReceived state.received).statusCodes := by
  have accounted := accounted_of_reaches reached
  have joining := joining_of_reaches reached
  obtain ⟨elapsed, metrics, finished, result⟩ := accounted.returned summary returned
  obtain ⟨ledger, aggregated, empty, _⟩ := accounted.finished metrics finished
  have ended : ∀ worker ∈ state.workers, worker.phase = .finished := by
    intro worker member
    obtain ⟨index, found⟩ := List.mem_iff_getElem?.mp member
    exact joining.ended (by rw [returned]; rfl) found
  have none (selected : WorkerPhase → Bool) (unselected : selected .finished = false) :
      state.workers.countP (fun worker => selected worker.phase) = 0 := by
    apply List.countP_eq_zero.mpr
    intro worker member
    rw [ended worker member, unselected]
    exact Bool.false_ne_true
  have requests := ledger.requests
  have errors := ledger.errors
  rw [empty] at requests errors
  rw [show state.workers.countP inFlight = 0 from none _ rfl] at requests
  rw [show state.workers.countP holdsError = 0 from none _ rfl] at errors
  subst aggregated
  subst result
  exact ⟨finished, requests, errors, rfl⟩

end RunState

end Strobengine.Local
