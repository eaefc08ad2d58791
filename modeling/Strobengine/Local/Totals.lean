import Strobengine.Local.Accounting

/-!
# When the totals of a summary agree

A worker that is cancelled inside an iteration drops it: the iteration was counted as a request and
appears in no status code, and the report counts it as successful.
-/

namespace Strobengine.Local

open Metrics Foundations Rust

namespace RunState

def idle (state : RunState) (index : Nat) : Bool :=
  (state.workers[index]?).all (fun worker => decide (worker.phase ≠ .iterating))

def aboutToCancel (state : RunState) : List Nat :=
  match state.phase with
  | .scalingDown _ target =>
    if target < state.currentConcurrency then state.childTokens.getLast?.toList else []
  | .cancelling (token :: _) => [token]
  | _ => []

/-- The supervisor cancels a worker only while it is not inside an iteration, and no
iteration panics. -/
def undisturbed (state : RunState) : RunAction → Prop
  | .worker index .panic => state.idle index = true
  | .main .advance => ∀ index ∈ state.aboutToCancel, state.idle index = true
  | _ => True

instance (state : RunState) (action : RunAction) : Decidable (state.undisturbed action) := by
  unfold undisturbed
  split <;> infer_instance

structure Undropped (state : RunState) : Prop where
  unbegun : ∀ worker ∈ state.workers, worker.cancelled = true → worker.phase ≠ .iterating
  interrupted : state.cancelled = true → state.interrupted = true
  none : state.interrupted = false ∨ state.phase.reported = true → state.abandoned = 0

theorem undropped_new (params : RunParams) : Undropped (new params) where
  unbegun := by
    intro worker member
    cases member
  interrupted := fun cancelled => nomatch cancelled
  none := fun _ => rfl

section Preservation

variable {params : RunParams} {state next : RunState} {action : RunAction}

private theorem Undropped.of_workers (undropped : Undropped state)
    (unbegun : ∀ worker ∈ next.workers, worker.cancelled = true → worker.phase ≠ .iterating)
    (cancelled : next.cancelled = state.cancelled)
    (interrupted : next.interrupted = state.interrupted)
    (abandoned : next.abandoned = state.abandoned)
    (reported :
      next.phase.reported = true → state.interrupted = false ∨ state.phase.reported = true) :
    Undropped next where
  unbegun := unbegun
  interrupted := by
    rw [cancelled, interrupted]
    exact undropped.interrupted
  none := by
    rw [interrupted, abandoned]
    intro quiet
    exact undropped.none (quiet.elim Or.inl reported)

private theorem Undropped.of_phase
    (undropped : Undropped state) {phase : Phase} (unreported : phase.reported = false) :
    Undropped { state with phase } := by
  refine undropped.of_workers undropped.unbegun ?_ ?_ ?_ ?_
  · rfl
  · rfl
  · rfl
  · intro reported
    have same : phase.reported = true := reported
    rw [unreported] at same
    cases same

private theorem unbegun_join {handle : Nat} {worker : WorkerTask}
    (undropped : Undropped state) (found : state.workers[handle]? = some worker) :
    ∀ other ∈ (state.setWorker handle { worker with joined := true }).workers,
      other.cancelled = true → other.phase ≠ .iterating := by
  apply forall_mem_set undropped.unbegun
  exact undropped.unbegun worker (List.mem_of_getElem? found)

private theorem unbegun_cancel {token : Nat}
    (undropped : Undropped state) (idle : state.idle token = true) :
    ∀ other ∈ (state.cancelWorker token).workers,
      other.cancelled = true → other.phase ≠ .iterating := by
  simp only [cancelWorker]
  split
  · exact undropped.unbegun
  · rename_i worker found
    apply forall_mem_set undropped.unbegun
    intro _
    rw [RunState.idle, found] at idle
    exact of_decide_eq_true idle

private theorem unbegun_spawn (undropped : Undropped state) (duration : Nat) :
    ∀ other ∈ (state.spawnWorker duration).workers,
      other.cancelled = true → other.phase ≠ .iterating := by
  intro other member
  rcases List.mem_append.mp member with old | new
  · exact undropped.unbegun other old
  · rw [List.mem_singleton.mp new]
    exact fun cancelled => nomatch cancelled

private theorem Undropped.dropped_eq_zero
    {index : Nat} {worker moved : WorkerTask} {event : WorkerEvent} {action : WorkerAction}
    (undropped : Undropped state) (joining : Joining state)
    (allowed : state.undisturbed (.worker index action))
    (found : state.workers[index]? = some worker)
    (stepped :
      worker.step params.timeoutMicros (worker.cancelled || state.cancelled)
        state.channelState action = some (moved, event))
    (quiet : state.interrupted = false ∨ state.phase.reported = true) :
    event.dropped = 0 := by
  by_contra dropped
  obtain ⟨iterating, cause⟩ := WorkerTask.dropped_of_step stepped dropped
  rcases cause with cancelled | panicked
  · rw [Bool.or_eq_true] at cancelled
    rcases cancelled with child | parent
    · exact undropped.unbegun worker (List.mem_of_getElem? found) child iterating
    · have interrupted := undropped.interrupted parent
      rcases quiet with uninterrupted | reported
      · rw [interrupted] at uninterrupted
        cases uninterrupted
      · have ended := joining.ended (Phase.joinedAll_of_reported reported) found
        rw [iterating] at ended
        cases ended
  · rw [panicked] at allowed
    have idle : state.idle index = true := allowed
    rw [RunState.idle, found] at idle
    exact of_decide_eq_true idle iterating

private theorem Undropped.of_worker
    {index : Nat} {worker moved : WorkerTask} {event : WorkerEvent} {action : WorkerAction}
    (undropped : Undropped state) (joining : Joining state)
    (allowed : state.undisturbed (.worker index action))
    (found : state.workers[index]? = some worker)
    (stepped :
      worker.step params.timeoutMicros (worker.cancelled || state.cancelled)
        state.channelState action = some (moved, event)) :
    Undropped ((state.setWorker index moved).record event) where
  unbegun := by
    apply forall_mem_set undropped.unbegun
    intro cancelled iterating
    have live := WorkerTask.not_cancelled_of_iterating stepped iterating
    rw [← (WorkerTask.step_frame stepped).1, cancelled] at live
    cases live
  interrupted := undropped.interrupted
  none := by
    intro quiet
    have dropped := undropped.dropped_eq_zero joining allowed found stepped quiet
    rw [record, dropped]
    exact undropped.none quiet

theorem Undropped.of_move (undropped : Undropped state) (joining : Joining state)
    (allowed : state.undisturbed action) (move : Move params state action next) :
    Undropped next := by
  cases move with
  | worker index action worker moved event found stepped =>
    exact undropped.of_worker joining allowed found stepped
  | spawn =>
    exact
      undropped.of_workers (unbegun_spawn undropped _) rfl rfl rfl
        (fun reported => nomatch reported)
  | joinAwaited handle remaining worker awaiting found =>
    exact
      undropped.of_workers (unbegun_join undropped found) rfl rfl rfl
        (fun reported => nomatch reported)
  | scaleUp => exact undropped.of_workers (unbegun_spawn undropped _) rfl rfl rfl Or.inr
  | scaleDown elapsed target scaling above =>
    unfold scaleDown
    split
    · exact undropped
    · rename_i token last
      have cancels : token ∈ state.aboutToCancel := by
        simp [aboutToCancel, scaling, above, last]
      exact
        undropped.of_workers (unbegun_cancel undropped (allowed token cancels)) rfl rfl rfl
          Or.inr
  | joinReaped elapsed target handle remaining worker reaping reaped found =>
    exact undropped.of_workers (unbegun_join undropped found) rfl rfl rfl Or.inr
  | cancelToken token remaining cancelling =>
    have cancels : token ∈ state.aboutToCancel := by
      rw [aboutToCancel, cancelling]
      exact List.mem_singleton_self token
    exact
      undropped.of_workers (unbegun_cancel undropped (allowed token cancels)) rfl rfl rfl
        (fun reported => nomatch reported)
  | joinTorn handle remaining worker tearing found =>
    exact
      undropped.of_workers (unbegun_join undropped found) rfl rfl rfl
        (fun reported => nomatch reported)
  | report elapsed reporting uninterrupted =>
    exact undropped.of_workers undropped.unbegun rfl rfl rfl (fun _ => Or.inl uninterrupted)
  | collect totalRequests totalErrors elapsed aggregated collecting =>
    exact
      undropped.of_workers undropped.unbegun rfl rfl rfl
        (fun _ => Or.inr (by rw [collecting]; rfl))
  | receive | finish | aggregatorPanic => exact { undropped with }
  | signal =>
    exact
      { unbegun := undropped.unbegun
        interrupted := fun _ => rfl
        none := fun quiet => undropped.none (quiet.elim (fun same => nomatch same) Or.inr) }
  | cancelAll interrupted =>
    exact
      { unbegun := undropped.unbegun
        interrupted := fun _ => interrupted
        none := undropped.none }
  | _ => exact undropped.of_phase rfl

end Preservation

theorem undropped_of_reaches {params : RunParams} {state : RunState}
    (reached : Reaches (step params) undisturbed (new params) state) :
    Undropped state := by
  have both : Joining state ∧ Undropped state := by
    refine
      reached.invariant (fun state => Joining state ∧ Undropped state) ?_
        ⟨joining_new params, undropped_new params⟩
    intro before action after holds allowed taken
    have move := move_of_step taken
    exact ⟨holds.1.of_move move, holds.2.of_move holds.1 allowed move⟩
  exact both.2

/-- In every run whose workers are only cancelled between two iterations and in which no
iteration panics, the totals of the summary are those of the recorded iterations. -/
theorem summary_totals_agree (params : RunParams) (state : RunState) (summary : TestSummary)
    (reached : Reaches (step params) undisturbed (new params) state)
    (returned : state.phase = .returned (some summary)) :
    ∃ metrics,
      state.aggregator = .finished metrics ∧
        summary.totalRequests = summary.statusCodes.sumValues id ∧
        summary.totalRequests = metrics.latencyHistogram.length ∧
        summary.totalErrors = state.received.countP RequestMetric.isError ∧
        (ReportSummary.fromSummary summary).successfulRequests =
          state.received.countP (fun metric => !metric.isError) := by
  obtain ⟨finished, requests, errors, statusCodes⟩ := summary_counts_received reached returned
  have abandoned : state.abandoned = 0 :=
    (undropped_of_reaches reached).none (Or.inr (by rw [returned]; rfl))
  rw [abandoned, Nat.add_zero] at requests
  refine ⟨_, finished, ?_, ?_, errors, ?_⟩
  · rw [statusCodes, AggregatedMetrics.sumValues_statusCodes_ofReceived]
    exact requests
  · rw [AggregatedMetrics.length_latencyHistogram_ofReceived]
    exact requests
  · have split := List.length_eq_countP_add_countP RequestMetric.isError (l := state.received)
    have negated :
        state.received.countP (fun metric => decide ¬ metric.isError = true) =
          state.received.countP (fun metric => !metric.isError) := by
      simp
    change summary.totalRequests - summary.totalErrors = _
    rw [requests, errors]
    omega

def constantRun : RunParams :=
  { url := "http://target/"
    strategy := .constant 1 1
    timeoutSecs := 5
    hdr := HdrStatistics.sample }

def summary (state : RunState) : Option TestSummary :=
  match state.phase with
  | .returned result => result
  | _ => none

private theorem exists_summary {params : RunParams} {guard : RunState → RunAction → Prop}
    [∀ state action, Decidable (guard state action)] {property : RunState → TestSummary → Prop}
    [∀ state result, Decidable (property state result)] (actions : List RunAction)
    (evaluated :
      (executeChecked (step params) guard (new params) actions).any
        (fun state =>
          state.summary.any (fun result => decide (property state result))) = true) :
    ∃ state result,
      Reaches (step params) guard (new params) state ∧
        state.phase = .returned (some result) ∧ property state result := by
  obtain ⟨state, run, ended⟩ := (Option.any_eq_true _ _).mp evaluated
  obtain ⟨result, returned, holds⟩ := (Option.any_eq_true _ _).mp ended
  obtain ⟨guarded, executed⟩ := executeChecked_eq_some run
  refine ⟨state, result, ⟨actions, guarded, executed⟩, ?_, of_decide_eq_true holds⟩
  unfold summary at returned
  split at returned
  · rename_i outcome phase
    rw [phase, returned]
  · cases returned

theorem summary_totals_agree_sample :
    ∃ state result,
      Reaches (step constantRun) undisturbed (new constantRun) state ∧
        state.phase = .returned (some result) ∧ result.totalRequests = 1 ∧
          (ReportSummary.fromSummary result).successfulRequests =
            state.received.countP (fun metric => !metric.isError) := by
  obtain ⟨state, result, reached, returned, one⟩ :
      ∃ state result,
        Reaches (step constantRun) undisturbed (new constantRun) state ∧
          state.phase = .returned (some result) ∧ result.totalRequests = 1 :=
    exists_summary
      [.main .advance, .main .advance, .worker 0 .start, .worker 0 .ready,
        .worker 0 (.check 0), .worker 0 (.respond { latencyMicros := 5, statusCode := 200 }),
        .worker 0 .send, .aggregator .receive, .worker 0 (.check 1000000000),
        .worker 0 .close, .main .advance, .main .advance, .main (.report 1000000000),
        .aggregator .finish, .main .advance]
      (by decide +kernel)
  obtain ⟨_, _, _, _, _, successful⟩ :=
    summary_totals_agree constantRun state result reached returned
  exact ⟨state, result, reached, returned, one, successful⟩

def profileRun : RunParams :=
  { constantRun with strategy := .dynamic (.constant 1 1) }

/-- The teardown cancels the worker inside its only iteration: the summary counts one
request and no status code, and the report counts a success. -/
theorem teardown_drops_iteration_sample :
    ∃ state result,
      Reaches (step profileRun) unguarded (new profileRun) state ∧
        state.phase = .returned (some result) ∧
          result.totalRequests = 1 ∧ result.statusCodes.sumValues id = 0 ∧
            (ReportSummary.fromSummary result).successfulRequests = 1 ∧ state.received.length = 0 :=
  exists_summary
    [.main (.tick 0), .main .advance, .main .advance, .main .advance, .main .advance,
      .worker 0 .start, .worker 0 .ready, .worker 0 (.check 0), .main .advance,
      .main (.tick 1000000000), .main .advance, .main .advance, .worker 0 .cancel,
      .worker 0 .close, .main .advance, .main .advance, .main (.report 1000000000),
      .aggregator .finish, .main .advance]
    (by decide +kernel)

end RunState

end Strobengine.Local
