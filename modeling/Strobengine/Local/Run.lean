import Strobengine.Local.LoadProfile
import Strobengine.Metrics.Summary
import Strobengine.Foundations.Execution
import Strobengine.Foundations.Population

/-!
# A local run

`execute_test` and the tasks it spawns: the workers, the supervisor of a load profile, and the
aggregator. Every await point is a phase. What the clock, the target and the scheduler decide is
carried by the action; nothing is assumed of the clock readings.
-/

namespace Strobengine.Local

open Metrics Foundations

def metricChannelBuffer : Nat :=
  8192

inductive ConcurrencyStrategy where
  | constant (concurrency : Nat) (durationSecs : UInt64)
  | dynamic (profile : LoadProfile)
  deriving DecidableEq, Repr

def ConcurrencyStrategy.maxConcurrency : ConcurrencyStrategy → Nat
  | .constant concurrency _ => concurrency
  | .dynamic profile => profile.maxConcurrency

def ConcurrencyStrategy.totalDurationSecs : ConcurrencyStrategy → UInt64
  | .constant _ durationSecs => durationSecs
  | .dynamic profile => profile.totalDuration

structure RunParams where
  url : String
  strategy : ConcurrencyStrategy
  timeoutSecs : UInt64
  hdr : HdrStatistics

def RunParams.totalDuration (params : RunParams) : Nat :=
  fromSecs params.strategy.totalDurationSecs

def RunParams.timeoutMicros (params : RunParams) : Nat :=
  (if 0 < params.timeoutSecs then params.timeoutSecs else 5).toNat * 1000000

structure LiveCounters where
  totalRequests : Nat := 0
  errors : Nat := 0
  activeWorkers : Nat := 0
  completedRequests : Nat := 0
  latencySumMicros : Nat := 0
  latencyCount : Nat := 0
  bytesReceived : Nat := 0
  deriving DecidableEq, Repr

def LiveCounters.complete (counters : LiveCounters) (metric : RequestMetric) : LiveCounters :=
  { counters with
    completedRequests := counters.completedRequests + 1
    bytesReceived := counters.bytesReceived + metric.bytesReceived
    latencySumMicros := counters.latencySumMicros + metric.latencyMicros % 2 ^ 64
    latencyCount := counters.latencyCount + 1
    errors := if metric.isError then counters.errors + 1 else counters.errors }

inductive WorkerPhase where
  | spawned
  | connecting
  | checking
  | iterating
  | sending (metric : RequestMetric)
  | closing
  | finished
  deriving DecidableEq, Repr

/-- One worker task. `cancelled` is its child token, `joined` whether its handle has been
awaited. -/
structure WorkerTask where
  duration : Nat
  phase : WorkerPhase
  cancelled : Bool
  joined : Bool
  deriving DecidableEq, Repr

inductive WorkerAction where
  | start
  | ready
  | check (elapsed : Nat)
  | cancel
  | respond (metric : RequestMetric)
  | expire
  | send
  | close
  | panic
  deriving DecidableEq, Repr

inductive WorkerEvent where
  | silent
  | started
  | begun
  | abandoned
  | completed (metric : RequestMetric)
  | sent (metric : RequestMetric)
  | refused (metric : RequestMetric)
  | exited
  | crashed (iterating : Bool)
  deriving DecidableEq, Repr

namespace WorkerEvent

def count (event : WorkerEvent) (counters : LiveCounters) : LiveCounters :=
  match event with
  | .started => { counters with activeWorkers := counters.activeWorkers + 1 }
  | .begun => { counters with totalRequests := counters.totalRequests + 1 }
  | .completed metric => counters.complete metric
  | .exited => { counters with activeWorkers := counters.activeWorkers - 1 }
  | .crashed _ => { counters with activeWorkers := counters.activeWorkers - 1 }
  | _ => counters

def enqueued : WorkerEvent → List RequestMetric
  | .sent metric => [metric]
  | _ => []

def dropped : WorkerEvent → Nat
  | .abandoned => 1
  | .crashed iterating => iterating.toNat
  | _ => 0

end WorkerEvent

inductive ChannelState where
  | accepting
  | full
  | closed
  deriving DecidableEq, Repr

namespace WorkerTask

/-- One step of the worker loop. `cancelled` is the worker's view of its token: a child
token is cancelled with its parent. -/
def step (timeoutMicros : Nat) (cancelled : Bool) (channel : ChannelState)
    (worker : WorkerTask) : WorkerAction → Option (WorkerTask × WorkerEvent)
  | .start =>
    match worker.phase with
    | .spawned => some ({ worker with phase := .connecting }, .started)
    | _ => none
  | .ready =>
    match worker.phase with
    | .connecting => some ({ worker with phase := .checking }, .silent)
    | _ => none
  | .check elapsed =>
    match worker.phase with
    | .checking =>
      if elapsed < worker.duration ∧ cancelled = false then
        some ({ worker with phase := .iterating }, .begun)
      else
        some ({ worker with phase := .closing }, .silent)
    | _ => none
  | .cancel =>
    match worker.phase with
    | .iterating =>
      if cancelled then some ({ worker with phase := .closing }, .abandoned) else none
    | _ => none
  | .respond metric =>
    match worker.phase with
    | .iterating => some ({ worker with phase := .sending metric }, .completed metric)
    | _ => none
  | .expire =>
    match worker.phase with
    | .iterating =>
      let metric : RequestMetric := { latencyMicros := timeoutMicros }
      some ({ worker with phase := .sending metric }, .completed metric)
    | _ => none
  | .send =>
    match worker.phase, channel with
    | .sending metric, .accepting => some ({ worker with phase := .checking }, .sent metric)
    | .sending metric, .closed => some ({ worker with phase := .closing }, .refused metric)
    | _, _ => none
  | .close =>
    match worker.phase with
    | .closing => some ({ worker with phase := .finished }, .exited)
    | _ => none
  | .panic =>
    -- only the code of the protocol engine can panic
    match worker.phase with
    | .connecting => some ({ worker with phase := .finished }, .crashed false)
    | .iterating => some ({ worker with phase := .finished }, .crashed true)
    | .closing => some ({ worker with phase := .finished }, .crashed false)
    | _ => none

section Step

variable {timeoutMicros : Nat} {cancelled : Bool} {channel : ChannelState}
  {worker moved : WorkerTask} {action : WorkerAction} {event : WorkerEvent}

theorem step_frame
    (stepped : worker.step timeoutMicros cancelled channel action = some (moved, event)) :
    moved.cancelled = worker.cancelled ∧ moved.joined = worker.joined := by
  unfold step at stepped
  repeat' split at stepped
  all_goals cases stepped
  all_goals exact ⟨rfl, rfl⟩

theorem unfinished_of_step
    (stepped : worker.step timeoutMicros cancelled channel action = some (moved, event)) :
    worker.phase ≠ .finished := by
  intro finished
  unfold step at stepped
  rw [finished] at stepped
  cases action <;> cases stepped

end Step

end WorkerTask

/-- Where `execute_test`, or the supervisor it awaits, stands. -/
inductive Phase where
  | spawning (spawned : Nat)
  | awaiting (remaining : List Nat)
  | ticking
  | scalingUp (elapsed target : Nat)
  | scalingDown (elapsed target : Nat)
  | reaping (elapsed target : Nat)
  | sleeping (elapsed target : Nat)
  | cancelling (remaining : List Nat)
  | tearingDown (remaining : List Nat)
  | reporting
  | collecting (totalRequests totalErrors elapsed : Nat)
  | returned (result : Option TestSummary)
  deriving DecidableEq

inductive Aggregator where
  | receiving (metrics : AggregatedMetrics)
  | finished (metrics : AggregatedMetrics)
  | panicked

/-- The state of a run. The last two fields are history: the metrics that the aggregator
has received, and the number of iterations that were begun and dropped without an
outcome. -/
structure RunState where
  phase : Phase
  workers : List WorkerTask
  childTokens : List Nat
  handles : List Nat
  reapedHandles : List Nat
  currentConcurrency : Nat
  counters : LiveCounters
  queue : List RequestMetric
  aggregator : Aggregator
  interrupted : Bool
  cancelled : Bool
  received : List RequestMetric
  abandoned : Nat

/-- Steps of `execute_test` and of the supervisor; `tick` and `report` read the clock. -/
inductive MainAction where
  | advance
  | tick (elapsed : Nat)
  | report (elapsed : Nat)
  deriving DecidableEq, Repr

inductive AggregatorAction where
  | receive
  | finish
  | panic
  deriving DecidableEq, Repr

/-- Steps of the whole run. A SIGINT first sets the flag, `signal`, and then cancels the
token, `cancelAll`. -/
inductive RunAction where
  | worker (index : Nat) (action : WorkerAction)
  | main (action : MainAction)
  | aggregator (action : AggregatorAction)
  | signal
  | cancelAll
  deriving DecidableEq, Repr

def Phase.holdsSender : Phase → Bool
  | .awaiting _ => false
  | .reporting => false
  | .collecting _ _ _ => false
  | .returned _ => false
  | _ => true

namespace RunState

def new (params : RunParams) : RunState :=
  { phase :=
      match params.strategy with
      | .constant _ _ => .spawning 0
      | .dynamic _ => .ticking
    workers := []
    childTokens := []
    handles := []
    reapedHandles := []
    currentConcurrency := 0
    counters := {}
    queue := []
    aggregator := .receiving {}
    interrupted := false
    cancelled := false
    received := []
    abandoned := 0 }

def channelState (state : RunState) : ChannelState :=
  match state.aggregator with
  | .receiving _ => if state.queue.length < metricChannelBuffer then .accepting else .full
  | _ => .closed

def sendersDropped (state : RunState) : Bool :=
  !state.phase.holdsSender &&
    state.workers.all (fun worker => decide (worker.phase = .finished))

def record (state : RunState) (event : WorkerEvent) : RunState :=
  { state with
    counters := event.count state.counters
    queue := state.queue ++ event.enqueued
    abandoned := state.abandoned + event.dropped }

def setWorker (state : RunState) (index : Nat) (worker : WorkerTask) : RunState :=
  { state with workers := state.workers.set index worker }

def stepWorker (params : RunParams) (state : RunState) (index : Nat) (action : WorkerAction) :
    Option RunState :=
  match state.workers[index]? with
  | none => none
  | some worker =>
    match
      worker.step params.timeoutMicros (worker.cancelled || state.cancelled)
        state.channelState action with
    | none => none
    | some (moved, event) => some ((state.setWorker index moved).record event)

def spawnWorker (state : RunState) (duration : Nat) : RunState :=
  { state with
    workers :=
      state.workers ++
        [{ duration, phase := .spawned, cancelled := false, joined := false }]
    handles := state.handles ++ [state.workers.length] }

def cancelWorker (state : RunState) (index : Nat) : RunState :=
  { state with
    workers :=
      match state.workers[index]? with
      | none => state.workers
      | some worker => state.workers.set index { worker with cancelled := true } }

theorem workers_cancelWorker {state : RunState} {index : Nat} {worker : WorkerTask}
    (found : state.workers[index]? = some worker) :
    (state.cancelWorker index).workers =
      state.workers.set index { worker with cancelled := true } := by
  simp only [cancelWorker, found]

def joinWorker (state : RunState) (index : Nat) : Option RunState :=
  match state.workers[index]? with
  | none => none
  | some worker =>
    if worker.phase = .finished then
      some (state.setWorker index { worker with joined := true })
    else
      none

def scaleUp (params : RunParams) (state : RunState) (elapsed : Nat) : RunState :=
  { state.spawnWorker (params.totalDuration - elapsed) with
    childTokens := state.childTokens ++ [state.workers.length]
    currentConcurrency := state.currentConcurrency + 1 }

def scaleDown (state : RunState) : RunState :=
  match state.childTokens.getLast? with
  | none => state
  | some token =>
    { state.cancelWorker token with
      childTokens := state.childTokens.dropLast
      handles := state.handles.dropLast
      reapedHandles := state.reapedHandles ++ state.handles.getLast?.toList
      currentConcurrency := state.currentConcurrency - 1 }

def summarise (params : RunParams) (totalRequests totalErrors elapsed : Nat)
    (aggregated : AggregatedMetrics) : TestSummary :=
  calculateSummary params.hdr
    { url := params.url
      totalRequests
      totalErrors
      durationSecs := (elapsed : ℚ) / 1000000000
      workers := params.strategy.maxConcurrency
      aggregated }

def advance (params : RunParams) (state : RunState) : Option RunState :=
  match state.phase with
  | .spawning spawned =>
    match params.strategy with
    | .constant concurrency durationSecs =>
      if spawned < concurrency then
        some
          { state.spawnWorker (fromSecs durationSecs) with
            phase := .spawning (spawned + 1) }
      else
        some { state with phase := .awaiting state.handles }
    | .dynamic _ => none
  | .awaiting [] => some { state with phase := .reporting }
  | .awaiting (handle :: remaining) =>
    (state.joinWorker handle).map
      (fun joined => { joined with phase := .awaiting remaining })
  | .ticking => none
  | .scalingUp elapsed target =>
    if state.currentConcurrency < target then
      some (state.scaleUp params elapsed)
    else
      some { state with phase := .scalingDown elapsed target }
  | .scalingDown elapsed target =>
    if target < state.currentConcurrency then
      some state.scaleDown
    else
      some { state with phase := .reaping elapsed target }
  | .reaping elapsed target =>
    match state.reapedHandles with
    | [] => some { state with phase := .sleeping elapsed target }
    | handle :: remaining =>
      (state.joinWorker handle).map
        (fun joined => { joined with reapedHandles := remaining })
  | .sleeping _ _ => some { state with phase := .ticking }
  | .cancelling [] => some { state with phase := .tearingDown state.handles }
  | .cancelling (token :: remaining) =>
    some { state.cancelWorker token with phase := .cancelling remaining }
  | .tearingDown [] => some { state with phase := .reporting }
  | .tearingDown (handle :: remaining) =>
    (state.joinWorker handle).map
      (fun joined => { joined with phase := .tearingDown remaining })
  | .reporting => none
  | .collecting totalRequests totalErrors elapsed =>
    match state.aggregator with
    | .receiving _ => none
    | .finished aggregated =>
      some
        { state with
          phase :=
            .returned
              (some (summarise params totalRequests totalErrors elapsed aggregated)) }
    | .panicked => some { state with phase := .returned none }
  | .returned _ => none

def stepMain (params : RunParams) (state : RunState) : MainAction → Option RunState
  | .advance => state.advance params
  | .tick elapsed =>
    match state.phase, params.strategy with
    | .ticking, .dynamic profile =>
      if params.totalDuration ≤ elapsed ∨ state.cancelled = true then
        some { state with phase := .cancelling state.childTokens }
      else
        some
          { state with phase := .scalingUp elapsed (profile.targetConcurrency elapsed) }
    | _, _ => none
  | .report elapsed =>
    match state.phase with
    | .reporting =>
      if state.interrupted then
        some { state with phase := .returned none }
      else
        some
          { state with
            phase :=
              .collecting state.counters.totalRequests state.counters.errors elapsed }
    | _ => none

/-- The aggregator loop. It ends when the channel is empty and every sender is dropped; a
panic drops the receiver with what is queued. -/
def stepAggregator (state : RunState) : AggregatorAction → Option RunState
  | .receive =>
    match state.aggregator, state.queue with
    | .receiving metrics, metric :: rest =>
      some
        { state with
          aggregator := .receiving (metrics.receive metric)
          queue := rest
          received := state.received ++ [metric] }
    | _, _ => none
  | .finish =>
    match state.aggregator, state.queue with
    | .receiving metrics, [] =>
      if state.sendersDropped then some { state with aggregator := .finished metrics }
      else none
    | _, _ => none
  | .panic =>
    match state.aggregator with
    | .receiving _ => some { state with aggregator := .panicked, queue := [] }
    | _ => none

def step (params : RunParams) (state : RunState) : RunAction → Option RunState
  | .worker index action => state.stepWorker params index action
  | .main action => state.stepMain params action
  | .aggregator action => state.stepAggregator action
  | .signal => some { state with interrupted := true }
  | .cancelAll => if state.interrupted then some { state with cancelled := true } else none

/-! ## What one step can do -/

/-- The effects of all enabled steps, one constructor per branch of the code. -/
inductive Move (params : RunParams) (state : RunState) : RunAction → RunState → Prop where
  | worker (index : Nat) (action : WorkerAction)
      (worker moved : WorkerTask) (event : WorkerEvent)
      (found : state.workers[index]? = some worker)
      (stepped :
        worker.step params.timeoutMicros (worker.cancelled || state.cancelled)
          state.channelState action = some (moved, event)) :
      Move params state (.worker index action) ((state.setWorker index moved).record event)
  | spawn (spawned concurrency : Nat) (durationSecs : UInt64)
      (spawning : state.phase = .spawning spawned)
      (constant : params.strategy = .constant concurrency durationSecs)
      (more : spawned < concurrency) :
      Move params state (.main .advance)
        { state.spawnWorker (fromSecs durationSecs) with phase := .spawning (spawned + 1) }
  | spawnedAll (spawned : Nat) (spawning : state.phase = .spawning spawned) :
      Move params state (.main .advance) { state with phase := .awaiting state.handles }
  | joinAwaited (handle : Nat) (remaining : List Nat) (worker : WorkerTask)
      (awaiting : state.phase = .awaiting (handle :: remaining))
      (found : state.workers[handle]? = some worker) (finished : worker.phase = .finished) :
      Move params state (.main .advance)
        { state.setWorker handle { worker with joined := true } with
          phase := .awaiting remaining }
  | awaited (awaiting : state.phase = .awaiting []) :
      Move params state (.main .advance) { state with phase := .reporting }
  | tickEnded (elapsed : Nat) (profile : LoadProfile) (ticking : state.phase = .ticking)
      (dynamic : params.strategy = .dynamic profile)
      (expired : params.totalDuration ≤ elapsed ∨ state.cancelled = true) :
      Move params state (.main (.tick elapsed))
        { state with phase := .cancelling state.childTokens }
  | tickScaled (elapsed : Nat) (profile : LoadProfile) (ticking : state.phase = .ticking)
      (dynamic : params.strategy = .dynamic profile) :
      Move params state (.main (.tick elapsed))
        { state with phase := .scalingUp elapsed (profile.targetConcurrency elapsed) }
  | scaleUp (elapsed target : Nat) (scaling : state.phase = .scalingUp elapsed target)
      (below : state.currentConcurrency < target) :
      Move params state (.main .advance) (state.scaleUp params elapsed)
  | scaledUp (elapsed target : Nat) (scaling : state.phase = .scalingUp elapsed target)
      (reached : target ≤ state.currentConcurrency) :
      Move params state (.main .advance) { state with phase := .scalingDown elapsed target }
  | scaleDown (elapsed target : Nat) (scaling : state.phase = .scalingDown elapsed target)
      (above : target < state.currentConcurrency) :
      Move params state (.main .advance) state.scaleDown
  | scaledDown (elapsed target : Nat) (scaling : state.phase = .scalingDown elapsed target)
      (reached : state.currentConcurrency ≤ target) :
      Move params state (.main .advance) { state with phase := .reaping elapsed target }
  | joinReaped (elapsed target handle : Nat) (remaining : List Nat) (worker : WorkerTask)
      (reaping : state.phase = .reaping elapsed target)
      (reaped : state.reapedHandles = handle :: remaining)
      (found : state.workers[handle]? = some worker) (finished : worker.phase = .finished) :
      Move params state (.main .advance)
        { state.setWorker handle { worker with joined := true } with
          reapedHandles := remaining }
  | reapedAll (elapsed target : Nat) (reaping : state.phase = .reaping elapsed target)
      (reaped : state.reapedHandles = []) :
      Move params state (.main .advance) { state with phase := .sleeping elapsed target }
  | wake (elapsed target : Nat) (sleeping : state.phase = .sleeping elapsed target) :
      Move params state (.main .advance) { state with phase := .ticking }
  | cancelToken (token : Nat) (remaining : List Nat)
      (cancelling : state.phase = .cancelling (token :: remaining)) :
      Move params state (.main .advance)
        { state.cancelWorker token with phase := .cancelling remaining }
  | cancelledAll (cancelling : state.phase = .cancelling []) :
      Move params state (.main .advance) { state with phase := .tearingDown state.handles }
  | joinTorn (handle : Nat) (remaining : List Nat) (worker : WorkerTask)
      (tearing : state.phase = .tearingDown (handle :: remaining))
      (found : state.workers[handle]? = some worker) (finished : worker.phase = .finished) :
      Move params state (.main .advance)
        { state.setWorker handle { worker with joined := true } with
          phase := .tearingDown remaining }
  | tornDown (tearing : state.phase = .tearingDown []) :
      Move params state (.main .advance) { state with phase := .reporting }
  | reportInterrupted (elapsed : Nat) (reporting : state.phase = .reporting)
      (interrupted : state.interrupted = true) :
      Move params state (.main (.report elapsed)) { state with phase := .returned none }
  | report (elapsed : Nat) (reporting : state.phase = .reporting)
      (uninterrupted : state.interrupted = false) :
      Move params state (.main (.report elapsed))
        { state with
          phase := .collecting state.counters.totalRequests state.counters.errors elapsed }
  | collect (totalRequests totalErrors elapsed : Nat) (aggregated : AggregatedMetrics)
      (collecting : state.phase = .collecting totalRequests totalErrors elapsed)
      (finished : state.aggregator = .finished aggregated) :
      Move params state (.main .advance)
        { state with
          phase :=
            .returned (some (summarise params totalRequests totalErrors elapsed aggregated)) }
  | collectFailed (totalRequests totalErrors elapsed : Nat)
      (collecting : state.phase = .collecting totalRequests totalErrors elapsed)
      (panicked : state.aggregator = .panicked) :
      Move params state (.main .advance) { state with phase := .returned none }
  | receive (metrics : AggregatedMetrics) (metric : RequestMetric) (rest : List RequestMetric)
      (receiving : state.aggregator = .receiving metrics) (queued : state.queue = metric :: rest) :
      Move params state (.aggregator .receive)
        { state with
          aggregator := .receiving (metrics.receive metric)
          queue := rest
          received := state.received ++ [metric] }
  | finish (metrics : AggregatedMetrics) (receiving : state.aggregator = .receiving metrics)
      (empty : state.queue = []) (dropped : state.sendersDropped = true) :
      Move params state (.aggregator .finish) { state with aggregator := .finished metrics }
  | aggregatorPanic (metrics : AggregatedMetrics)
      (receiving : state.aggregator = .receiving metrics) :
      Move params state (.aggregator .panic) { state with aggregator := .panicked, queue := [] }
  | signal : Move params state .signal { state with interrupted := true }
  | cancelAll (interrupted : state.interrupted = true) :
      Move params state .cancelAll { state with cancelled := true }

section Inversion

variable {params : RunParams} {state next : RunState}

theorem joinWorker_eq_some {handle : Nat} {joined : RunState}
    (join : state.joinWorker handle = some joined) :
    ∃ worker,
      state.workers[handle]? = some worker ∧ worker.phase = .finished ∧
        joined = state.setWorker handle { worker with joined := true } := by
  unfold joinWorker at join
  split at join
  · cases join
  · rename_i worker found
    split at join
    · rename_i finished
      cases join
      exact ⟨worker, found, finished, rfl⟩
    · cases join

private theorem move_of_advance (taken : state.advance params = some next) :
    Move params state (.main .advance) next := by
  unfold advance at taken
  split at taken
  · rename_i spawned spawning
    split at taken
    · rename_i concurrency durationSecs constant
      split at taken
      · rename_i more
        cases taken
        exact .spawn spawned concurrency durationSecs spawning constant more
      · cases taken
        exact .spawnedAll spawned spawning
    · cases taken
  · rename_i awaiting
    cases taken
    exact .awaited awaiting
  · rename_i handle remaining awaiting
    obtain ⟨joined, join, rfl⟩ := Option.map_eq_some_iff.mp taken
    obtain ⟨worker, found, finished, rfl⟩ := joinWorker_eq_some join
    exact .joinAwaited handle remaining worker awaiting found finished
  · cases taken
  · rename_i elapsed target scaling
    split at taken
    · rename_i below
      cases taken
      exact .scaleUp elapsed target scaling below
    · rename_i reached
      cases taken
      exact .scaledUp elapsed target scaling (Nat.le_of_not_lt reached)
  · rename_i elapsed target scaling
    split at taken
    · rename_i above
      cases taken
      exact .scaleDown elapsed target scaling above
    · rename_i reached
      cases taken
      exact .scaledDown elapsed target scaling (Nat.le_of_not_lt reached)
  · rename_i elapsed target reaping
    split at taken
    · rename_i reaped
      cases taken
      exact .reapedAll elapsed target reaping reaped
    · rename_i handle remaining reaped
      obtain ⟨joined, join, rfl⟩ := Option.map_eq_some_iff.mp taken
      obtain ⟨worker, found, finished, rfl⟩ := joinWorker_eq_some join
      exact .joinReaped elapsed target handle remaining worker reaping reaped found finished
  · rename_i elapsed target sleeping
    cases taken
    exact .wake elapsed target sleeping
  · rename_i cancelling
    cases taken
    exact .cancelledAll cancelling
  · rename_i token remaining cancelling
    cases taken
    exact .cancelToken token remaining cancelling
  · rename_i tearing
    cases taken
    exact .tornDown tearing
  · rename_i handle remaining tearing
    obtain ⟨joined, join, rfl⟩ := Option.map_eq_some_iff.mp taken
    obtain ⟨worker, found, finished, rfl⟩ := joinWorker_eq_some join
    exact .joinTorn handle remaining worker tearing found finished
  · cases taken
  · rename_i totalRequests totalErrors elapsed collecting
    split at taken
    · cases taken
    · rename_i aggregated finished
      cases taken
      exact .collect totalRequests totalErrors elapsed aggregated collecting finished
    · rename_i panicked
      cases taken
      exact .collectFailed totalRequests totalErrors elapsed collecting panicked
  · cases taken

private theorem move_of_stepMain {action : MainAction}
    (taken : state.stepMain params action = some next) :
    Move params state (.main action) next := by
  cases action with
  | advance => exact move_of_advance taken
  | tick elapsed =>
    simp only [stepMain] at taken
    split at taken
    · rename_i profile ticking dynamic
      split at taken
      · rename_i expired
        cases taken
        exact .tickEnded elapsed profile ticking dynamic expired
      · cases taken
        exact .tickScaled elapsed profile ticking dynamic
    · cases taken
  | report elapsed =>
    simp only [stepMain] at taken
    split at taken
    · rename_i reporting
      split at taken
      · rename_i interrupted
        cases taken
        exact .reportInterrupted elapsed reporting interrupted
      · rename_i uninterrupted
        cases taken
        exact .report elapsed reporting (Bool.not_eq_true _ ▸ uninterrupted)
    · cases taken

private theorem move_of_stepAggregator {action : AggregatorAction}
    (taken : state.stepAggregator action = some next) :
    Move params state (.aggregator action) next := by
  cases action with
  | receive =>
    simp only [stepAggregator] at taken
    split at taken
    · rename_i metrics metric rest receiving queued
      cases taken
      exact .receive metrics metric rest receiving queued
    · cases taken
  | finish =>
    simp only [stepAggregator] at taken
    split at taken
    · rename_i metrics receiving empty
      split at taken
      · rename_i dropped
        cases taken
        exact .finish metrics receiving empty dropped
      · cases taken
    · cases taken
  | panic =>
    simp only [stepAggregator] at taken
    split at taken
    · rename_i metrics receiving
      cases taken
      exact .aggregatorPanic metrics receiving
    · cases taken

theorem move_of_step {action : RunAction} (taken : state.step params action = some next) :
    Move params state action next := by
  cases action with
  | worker index action =>
    simp only [step, stepWorker] at taken
    split at taken
    · cases taken
    · rename_i worker found
      split at taken
      · cases taken
      · rename_i moved event stepped
        cases taken
        exact .worker index action worker moved event found stepped
  | main => exact move_of_stepMain taken
  | aggregator => exact move_of_stepAggregator taken
  | signal =>
    cases taken
    exact .signal
  | cancelAll =>
    simp only [step] at taken
    split at taken
    · rename_i interrupted
      cases taken
      exact .cancelAll interrupted
    · cases taken

end Inversion

end RunState

end Strobengine.Local
