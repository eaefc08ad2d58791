import Strobengine.Distributed.Worker.Invariant

/-!
# For which run a command cancels

`stop_run` and `cancel_run` cancel whatever run the slot holds and do not look at the run id of the
command.
-/

namespace Strobengine.Distributed

open Foundations

def RunTask.Live (task : RunTask) : Prop :=
  task.cancelled = false ∧ task.phase ≠ .finished
  deriving Decidable

def Stage.cancels : Stage → Bool
  | .stopTaking => true
  | .stopCancelling _ => true
  | .aborting => true
  | _ => false

namespace Received

variable {params : RunParams} {received : Received}

theorem opening_cancels (cancels : (received.opening params).cancels = true) :
    received.request.command ≠ .start := by
  intro start
  rcases received.opening_cases params with
    ⟨plan, opened, _⟩ | ⟨opened, stop⟩ | ⟨opened, abort⟩ | ⟨_, _, opened, _⟩
  · rw [opened] at cancels
    cases cancels
  · rw [stop] at start
    cases start
  · rw [abort] at start
    cases start
  · rw [opened] at cancels
    cases cancels

theorem spawned_testRunId {earlier : List Proto.CommandRequest} {task : RunTask}
    (spawned : received.spawned params = some task)
    (inOrder : Proto.InOrder earlier received.request) :
    received.request.command = .start ∧ task.testRunId = received.request.testRunId := by
  obtain ⟨plan, opened, same⟩ := spawned_eq_some spawned
  have start : received.request.command = .start := by
    rcases received.opening_cases params with
      ⟨_, _, start⟩ | ⟨other, _⟩ | ⟨other, _⟩ | ⟨_, _, other, _⟩
    · exact start
    all_goals
      rw [opened] at other
      cases other
  rw [Proto.InOrder, if_pos start] at inOrder
  refine ⟨start, ?_⟩
  rw [same]
  exact if_neg inOrder

end Received

namespace Worker

def commands (worker : Worker) : List Proto.CommandRequest :=
  worker.handled.map Received.request

def OnlyRuns (worker : Worker) (runId : String) : Prop :=
  ∀ received ∈ worker.handled, ∀ task ∈ worker.tasks received.label,
    task.Live → task.testRunId = runId
  deriving Decidable

/-- A START is taken only while no run with another id goes on. -/
def exclusiveStart (worker : Worker) (command : Proto.CommandRequest) : Prop :=
  command.command = .start → worker.OnlyRuns command.testRunId
  deriving Decidable

/-- Every cancellation was of the run for which the command had been issued. -/
def CancelsOwnRun (worker : Worker) : Prop :=
  ∀ cancellation ∈ worker.cancellations, cancellation.testRunId = cancellation.request.testRunId
  deriving Decidable

/-- The runs that go on are of the last START, and a command that is about to cancel is
for the run of the last START. -/
structure Attributed (params : RunParams) (worker : Worker) : Prop where
  wellFormed : WellFormed params worker
  live :
    ∀ label task,
      worker.tasks label = some task → task.Live →
        Proto.lastStarted worker.commands = some task.testRunId
  cancelling :
    ∀ received stage,
      worker.loop = .handling received stage → stage.cancels = true →
        ∀ runId ∈ Proto.lastStarted worker.commands, runId = received.request.testRunId
  own : worker.CancelsOwnRun

/-- Of what is shared, only the run slot matters. -/
theorem Attributed.with_shared {params : RunParams} {worker : Worker} {shared : Shared}
    (attributed : Attributed params worker)
    (slot : ∀ label, shared.run = some label → (worker.tasks label).isSome = true) :
    Attributed params { worker with shared } :=
  { attributed with wellFormed := { attributed.wellFormed with slot } }

theorem attributed_new (params : RunParams) : Attributed params new where
  wellFormed := wellFormed_new params
  live := by
    intro label task found
    cases found
  cancelling := by
    intro received stage handling
    cases handling
  own := by
    intro cancellation member
    cases member

section Preservation

variable {params : RunParams} {worker next : Worker} {action : WorkerAction}

theorem TaskChange.live_before {before after : RunTask}
    (change : TaskChange params before after) (live : after.Live) :
    before.Live ∧ after.testRunId = before.testRunId := by
  cases change with
  | kept => exact ⟨live, rfl⟩
  | cancelled => cases live.1
  | stepped action _ taken =>
    have move := RunTask.move_of_step taken
    obtain ⟨same, uncancelled⟩ := RunTask.testRunId_of_move move
    refine ⟨⟨uncancelled live.1, ?_⟩, same⟩
    by_cases ready : action = .orchestrator .setReady
    · subst ready
      cases move with
      | setReady => exact False.elim (live.2 rfl)
    · exact fun finished =>
        live.2 ((RunTask.finished_iff_of_move move ready).mpr finished)

variable {received : Received} {stage : Stage}

theorem cancels_of_move (move : Move params worker action next)
    (handling : next.loop = .handling received stage) (cancels : stage.cancels = true) :
    (action = .receive received ∧ stage = received.opening params) ∨
      ∃ earlier, worker.loop = .handling received earlier ∧ earlier.cancels = true := by
  cases move with
  | receive =>
    cases handling
    exact Or.inl ⟨rfl, rfl⟩
  | stopTake taken label before =>
    cases handling
    exact Or.inr ⟨.stopTaking, before, rfl⟩
  | task => exact Or.inr ⟨stage, handling, cancels⟩
  | heartbeatAbort => exact Or.inr ⟨stage, (loop_cancelRun worker).symm.trans handling, cancels⟩
  | acknowledge => cases handling
  | _ =>
    cases handling
    cases cancels

theorem commands_receive (move : Move params worker (.receive received) next) :
    next.commands = worker.commands ++ [received.request] := by
  cases move
  exact List.map_append

theorem commands_of_move (move : Move params worker action next) :
    (∃ received, action = .receive received) ∨ next.commands = worker.commands := by
  rcases handled_of_move move with ⟨received, taken, _⟩ | same
  · exact Or.inl ⟨received, taken⟩
  · exact Or.inr (congrArg (List.map Received.request) same)

private theorem live_of_move (attributed : Attributed params worker)
    (admitted :
      ∀ received, action = .receive received →
        Proto.InOrder worker.commands received.request ∧ worker.exclusiveStart received.request)
    (move : Move params worker action next) {label : Nat} {task : RunTask}
    (found : next.tasks label = some task) (live : task.Live) :
    Proto.lastStarted next.commands = some task.testRunId := by
  rcases task_of_move move found with ⟨received, rfl, _, spawned⟩ | ⟨before, present, change⟩
  · obtain ⟨start, named⟩ := received.spawned_testRunId spawned (admitted received rfl).1
    rw [commands_receive move, Proto.lastStarted_concat, if_pos start, named]
  · obtain ⟨liveBefore, named⟩ := change.live_before live
    have started := attributed.live label before present liveBefore
    rw [named]
    rcases commands_of_move move with ⟨received, rfl⟩ | same
    · rw [commands_receive move, Proto.lastStarted_concat]
      split
      · rename_i start
        obtain ⟨earlier, member, rfl, _⟩ := attributed.wellFormed.tasks label before present
        have exclusive := (admitted received rfl).2 start
        rw [exclusive earlier member before present liveBefore]
      · exact started
    · rw [same]
      exact started

private theorem cancelling_of_move (attributed : Attributed params worker)
    (inOrder :
      ∀ received, action = .receive received → Proto.InOrder worker.commands received.request)
    (move : Move params worker action next)
    (handling : next.loop = .handling received stage) (cancels : stage.cancels = true) :
    ∀ runId ∈ Proto.lastStarted next.commands, runId = received.request.testRunId := by
  rcases cancels_of_move move handling cancels with ⟨rfl, rfl⟩ | ⟨earlier, before, cancelled⟩
  · have other := received.opening_cancels cancels
    have follows := inOrder received rfl
    rw [Proto.InOrder, if_neg other] at follows
    rw [commands_receive move, Proto.lastStarted_concat, if_neg other]
    exact follows
  · rcases commands_of_move move with ⟨taken, rfl⟩ | same
    · cases move with
      | receive _ idle => rw [idle] at before; cases before
    · rw [same]
      exact attributed.cancelling received earlier before cancelled

theorem cancelledBy_own (attributed : Attributed params worker)
    (handling : worker.loop = .handling received stage) (cancels : stage.cancels = true)
    (label : Nat) :
    ∀ cancellation ∈ worker.cancelledBy received label,
      cancellation.testRunId = cancellation.request.testRunId := by
  intro cancellation member
  unfold cancelledBy at member
  split at member
  · cases member
  · rename_i task found
    split at member
    · cases member
    · rename_i going
      rw [List.mem_singleton.mp member]
      have live : task.Live :=
        ⟨Bool.eq_false_of_not_eq_true (fun cancelled => going (Or.inl cancelled)),
          fun finished => going (Or.inr finished)⟩
      exact
        attributed.cancelling received stage handling cancels task.testRunId
          (attributed.live label task found live)

private theorem own_of_move
    (attributed : Attributed params worker) (move : Move params worker action next) :
    next.CancelsOwnRun := by
  cases move with
  | stopCancel received label handling =>
    intro cancellation member
    rcases List.mem_append.mp member with old | new
    · exact attributed.own cancellation old
    · exact cancelledBy_own attributed handling rfl label cancellation new
  | abort received handling =>
    intro cancellation member
    rcases List.mem_append.mp member with old | new
    · exact attributed.own cancellation old
    · cases occupied : worker.shared.run with
      | none =>
        rw [occupied] at new
        cases new
      | some label =>
        rw [occupied] at new
        exact cancelledBy_own attributed handling rfl label cancellation new
  | heartbeatAbort =>
    unfold CancelsOwnRun
    rw [cancellations_cancelRun]
    exact attributed.own
  | _ => exact attributed.own

/-- Every step keeps the attribution, provided that commands arrive in order and a START
only while no run with another id goes on. -/
theorem Attributed.of_move (attributed : Attributed params worker)
    (admitted :
      ∀ received, action = .receive received →
        Proto.InOrder worker.commands received.request ∧ worker.exclusiveStart received.request)
    (move : Move params worker action next) :
    Attributed params next where
  wellFormed := attributed.wellFormed.of_move move
  live := fun _ _ found live => live_of_move attributed admitted move found live
  cancelling := fun _ _ handling cancels =>
    cancelling_of_move attributed (fun received taken => (admitted received taken).1) move
      handling cancels
  own := own_of_move attributed move

end Preservation

end Worker

end Strobengine.Distributed
