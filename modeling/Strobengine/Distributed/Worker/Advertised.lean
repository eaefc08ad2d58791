import Strobengine.Distributed.Worker.Rejection

/-!
# Truthfulness of the advertised state

Three things make the state in the heartbeats wrong: the run task of a rejected START; an ABORT,
which does not wait for the run task to drain; and a run task that ends before the command loop has
set RUNNING for it.
-/

namespace Strobengine.Distributed.Worker

open Foundations

/-- A valid START is received only while the run slot is empty, an ABORT sets READY only
when no run task is executing, and a run task does not set READY before the command loop
has set RUNNING for it. -/
def truthfulGuard (params : RunParams) (worker : Worker) : WorkerAction → Prop
  | .receive received => freeSlotGuard params worker (.receive received)
  | .advance _ =>
    match worker.loop with
    | .handling received .settingReady =>
      received.request.command = .abort → worker.executing = []
    | _ => True
  | .task label (.orchestrator .setReady) =>
    match worker.loop with
    | .handling received (.beginning _) => received.label ≠ label
    | .handling received (.settingRunning _) => received.label ≠ label
    | _ => True
  | _ => True

instance (params : RunParams) (worker : Worker) (action : WorkerAction) :
    Decidable (truthfulGuard params worker action) := by
  unfold truthfulGuard
  repeat' split
  all_goals infer_instance

def starting (worker : Worker) : Option Nat :=
  match worker.loop with
  | .handling received (.beginning _) => some received.label
  | .handling received (.settingRunning _) => some received.label
  | _ => none

def owner (worker : Worker) : Option Nat :=
  match worker.loop with
  | .handling received (.beginning _) => some received.label
  | .handling _ (.stopCancelling label) => some label
  | .handling _ (.stopJoining label) => some label
  | _ => worker.shared.run

def stageTruthful (worker : Worker) (received : Received) : Stage → Prop
  | .beginning _ => worker.shared.run = none
  | .stopStoring => worker.executing = []
  | .aborting => received.request.command = .abort
  | .settingReady => received.request.command = .abort ∨ worker.executing = []
  | _ => True

structure Truthful (worker : Worker) : Prop where
  owned : ∀ label ∈ worker.executing, worker.owner = some label
  stage :
    ∀ received stage, worker.loop = .handling received stage → stageTruthful worker received stage
  begun :
    ∀ label, worker.starting = some label →
      label ∈ worker.executing ∧ worker.shared.machine.state = .ready
  settled :
    worker.starting = none →
      (worker.shared.machine.state = .ready ∧ worker.executing = []) ∨
        (worker.shared.machine.state = .running ∧ worker.executing ≠ [])

theorem truthful_new : Truthful new where
  owned := by
    intro label member
    cases member
  stage := by
    intro received stage handling
    cases handling
  begun := by
    intro label begins
    cases begins
  settled := fun _ => Or.inl ⟨rfl, rfl⟩

section Executing

variable {params : RunParams} {worker next : Worker}

theorem executing_congr (handled : next.handled = worker.handled)
    (active : ∀ label, next.active label = worker.active label) :
    next.executing = worker.executing := by
  have same : next.active = worker.active := funext active
  rw [executing, executing, handled, same]

theorem active_of_mem_executing {label : Nat} (member : label ∈ worker.executing) :
    worker.active label = true :=
  (List.mem_filter.mp member).2

theorem executing_eq_nil_of_owner
    (truthful : Truthful worker) {label : Nat} (owned : worker.owner = some label)
    (ended : worker.active label = false) :
    worker.executing = [] := by
  apply List.eq_nil_iff_forall_not_mem.mpr
  intro other member
  have same := truthful.owned other member
  rw [owned] at same
  cases same
  have running := active_of_mem_executing member
  rw [ended] at running
  cases running

theorem executing_eq_nil_of_unowned (truthful : Truthful worker) (unowned : worker.owner = none) :
    worker.executing = [] := by
  apply List.eq_nil_iff_forall_not_mem.mpr
  intro other member
  have same := truthful.owned other member
  rw [unowned] at same
  cases same

@[simp]
theorem active_cancelTask (worker : Worker) (label other : Nat) :
    (worker.cancelTask label).active other = worker.active other := by
  unfold active
  rw [tasks_cancelTask]
  by_cases same : other = label
  · subst same
    cases worker.tasks other <;> simp
  · rw [if_neg same]

@[simp]
theorem executing_cancelTask (worker : Worker) (label : Nat) :
    (worker.cancelTask label).executing = worker.executing :=
  executing_congr rfl (active_cancelTask worker label)

@[simp]
theorem executing_cancelRun (worker : Worker) : worker.cancelRun.executing = worker.executing := by
  unfold cancelRun
  split
  · rfl
  · exact executing_cancelTask worker _

end Executing

section Preservation

variable {params : RunParams} {worker next : Worker}

private theorem truthful_of_same
    (truthful : Truthful worker) (executing : next.executing = worker.executing)
    (state : next.shared.machine = worker.shared.machine)
    (owner : next.owner = worker.owner) (starting : next.starting = worker.starting)
    (stage :
      ∀ received stage, next.loop = .handling received stage → stageTruthful next received stage) :
    Truthful next where
  owned := by
    rw [executing, owner]
    exact truthful.owned
  stage := stage
  begun := by
    rw [executing, state, starting]
    exact truthful.begun
  settled := by
    rw [executing, state, starting]
    exact truthful.settled

private theorem truthful_of_quiet
    (quiet : next.executing = []) (ready : next.shared.machine.state = .ready)
    (notStarting : next.starting = none)
    (stage :
      ∀ received stage, next.loop = .handling received stage → stageTruthful next received stage) :
    Truthful next where
  owned := by
    rw [quiet]
    intro label member
    cases member
  stage := stage
  begun := by
    rw [notStarting]
    intro label begins
    cases begins
  settled := fun _ => Or.inl ⟨ready, quiet⟩

private theorem ready_of_quiet (truthful : Truthful worker) (quiet : worker.executing = [])
    (notStarting : worker.starting = none) :
    worker.shared.machine.state = .ready := by
  rcases truthful.settled notStarting with ⟨ready, _⟩ | ⟨_, busy⟩
  · exact ready
  · exact False.elim (busy quiet)

private theorem executing_receive (params : RunParams) (received : Received)
    (fresh : received.label ∉ worker.handled.map Received.label) :
    (worker.receive params received).executing =
      worker.executing ++ if (received.spawned params).isSome then [received.label] else [] := by
  have others : ∀ label ∈ worker.handled.map Received.label,
      (worker.receive params received).active label = worker.active label := by
    intro label member
    have different : label ≠ received.label := by
      intro same
      exact fresh (same ▸ member)
    simp only [active, receive, Function.update_of_ne different]
  have own :
      (worker.receive params received).active received.label =
        (received.spawned params).isSome := by
    cases spawned : received.spawned params with
    | none => simp [active, receive, spawned]
    | some =>
      obtain ⟨plan, _, rfl⟩ := Received.spawned_eq_some spawned
      simp [active, receive, spawned, RunTask.spawn]
  have handled :
      (worker.receive params received).handled.map Received.label =
        worker.handled.map Received.label ++ [received.label] := by
    simp [receive]
  rw [executing, executing, handled, List.filter_append, List.filter_congr others,
    List.filter_singleton, own]
  cases (received.spawned params).isSome <;> rfl

variable {received : Received}

private theorem truthful_receive (truthful : Truthful worker) (idle : worker.loop = .idle)
    (fresh : received.label ∉ worker.handled.map Received.label)
    (allowed : freeSlotGuard params worker (.receive received)) :
    Truthful (worker.receive params received) := by
  have executes := executing_receive params received fresh
  have ownerBefore : worker.owner = worker.shared.run := by simp [owner, idle]
  have startingBefore : worker.starting = none := by simp [starting, idle]
  rcases received.opening_cases params with
    ⟨plan, opened, command⟩ | ⟨opened, command⟩ | ⟨opened, command⟩ |
      ⟨status, errorMessage, opened, command⟩
  · have valid : (received.spawned params).isSome = true := by
      simp [Received.spawned, opened]
    have free : worker.shared.run = none := allowed valid
    have quiet := executing_eq_nil_of_unowned truthful (ownerBefore.trans free)
    rw [quiet, List.nil_append, if_pos valid] at executes
    have begins : (worker.receive params received).starting = some received.label := by
      simp [starting, receive, opened]
    exact
      { owned := by
          rw [executes]
          intro label member
          rw [List.mem_singleton.mp member]
          simp [owner, receive, opened]
        stage := by
          intro current stage handling
          simp only [receive, CommandLoop.handling.injEq] at handling
          rw [← handling.2, opened]
          exact free
        begun := by
          rw [executes, begins]
          intro label same
          cases same
          have ready := ready_of_quiet truthful quiet startingBefore
          exact ⟨List.mem_singleton.mpr rfl, ready⟩
        settled := by
          rw [begins]
          intro impossible
          cases impossible }
  all_goals
    have invalid : ¬ (received.spawned params).isSome = true := by
      simp [Received.spawned, opened]
    rw [if_neg invalid, List.append_nil] at executes
    refine truthful_of_same truthful executes rfl ?_ ?_ ?_
    · rw [ownerBefore]
      simp [owner, receive, opened]
    · rw [startingBefore]
      simp [starting, receive, opened]
    · intro current stage handling
      simp only [receive, CommandLoop.handling.injEq] at handling
      rw [← handling.1, ← handling.2, opened]
      first | exact True.intro | exact command

variable {label : Nat} {action : TaskAction} {task after : RunTask}

private theorem executing_stepTask (shared : Shared)
    (found : worker.tasks label = some task) (taken : task.step params action = some after)
    (notReady : action ≠ .orchestrator .setReady) :
    ({ worker with
        shared
        tasks := Function.update worker.tasks label (some after) } : Worker).executing =
      worker.executing := by
  refine executing_congr rfl ?_
  intro other
  by_cases same : other = label
  · subst same
    have ended := RunTask.finished_iff_of_move (RunTask.move_of_step taken) notReady
    simp [active, found, ended]
  · simp [active, Function.update_of_ne same]

private theorem machine_afterTask (shared : Shared) (notReady : action ≠ .orchestrator .setReady) :
    (shared.afterTask action).machine = shared.machine := by
  unfold Shared.afterTask
  split
  · rfl
  · exact False.elim (notReady rfl)
  · rfl

private theorem stageTruthful_congr {stage : Stage}
    (run : next.shared.run = worker.shared.run) (executing : next.executing = worker.executing)
    (truthful : stageTruthful worker received stage) :
    stageTruthful next received stage := by
  unfold stageTruthful at truthful ⊢
  rw [run, executing]
  exact truthful

private theorem truthful_setReady (truthful : Truthful worker)
    (member : label ∈ worker.handled.map Received.label) (found : worker.tasks label = some task)
    (taken : task.step params (.orchestrator .setReady) = some after)
    (allowed : truthfulGuard params worker (.task label (.orchestrator .setReady))) :
    Truthful
      { worker with
        shared := worker.shared.setState .ready
        tasks := Function.update worker.tasks label (some after) } := by
  obtain ⟨setting, ended⟩ : task.phase = .settingReady ∧ after.phase = .finished := by
    cases RunTask.move_of_step taken with
    | setReady setting => exact ⟨setting, rfl⟩
  have executes : label ∈ worker.executing :=
    List.mem_filter.mpr ⟨member, by simp [active, found, setting]⟩
  have owned := truthful.owned label executes
  have notStarting : worker.starting = none := by
    cases begins : worker.starting with
    | none => rfl
    | some other =>
      have same := truthful.owned other (truthful.begun other begins).1
      rw [owned] at same
      cases same
      simp only [truthfulGuard] at allowed
      simp only [starting] at begins
      split at begins
      · simp_all
      · simp_all
      · cases begins
  have quiet :
      ({ worker with
          shared := worker.shared.setState .ready
          tasks := Function.update worker.tasks label (some after) } : Worker).executing =
        [] := by
    apply List.eq_nil_iff_forall_not_mem.mpr
    intro other otherMember
    have running := active_of_mem_executing otherMember
    by_cases same : other = label
    · subst same
      simp [active, ended] at running
    · simp only [active, Function.update_of_ne same] at running
      have otherExecutes : other ∈ worker.executing :=
        List.mem_filter.mpr ⟨(List.mem_filter.mp otherMember).1, running⟩
      have otherOwned := truthful.owned other otherExecutes
      rw [owned] at otherOwned
      cases otherOwned
      exact same rfl
  refine truthful_of_quiet quiet (by simp [Shared.setState]) notStarting ?_
  intro received stage handling
  have before := truthful.stage received stage handling
  cases stage with
  | stopStoring => exact quiet
  | settingReady => exact Or.inr quiet
  | _ => exact before

private theorem truthful_task (wellFormed : WellFormed params worker) (truthful : Truthful worker)
    (found : worker.tasks label = some task) (taken : task.step params action = some after)
    (allowed : truthfulGuard params worker (.task label action)) :
    Truthful
      { worker with
        shared := worker.shared.afterTask action
        tasks := Function.update worker.tasks label (some after) } := by
  by_cases ready : action = .orchestrator .setReady
  · subst ready
    obtain ⟨received, member, same, _⟩ := wellFormed.tasks label task found
    exact truthful_setReady truthful (List.mem_map.mpr ⟨received, member, same⟩) found taken allowed
  · have executes := executing_stepTask (worker.shared.afterTask action) found taken ready
    refine truthful_of_same truthful executes (machine_afterTask _ ready) ?_ rfl ?_
    · simp [owner]
    · intro received stage handling
      exact
        stageTruthful_congr (run_afterTask _ _) executes
          (truthful.stage received stage handling)

private theorem truthful_heartbeatAbort (truthful : Truthful worker) :
    Truthful worker.cancelRun := by
  refine
    truthful_of_same truthful (executing_cancelRun worker) (by simp)
      (by simp [owner]) (by simp [starting]) ?_
  intro received stage handling
  rw [loop_cancelRun] at handling
  exact
    stageTruthful_congr (by simp) (executing_cancelRun worker)
      (truthful.stage received stage handling)

private theorem truthful_advance (truthful : Truthful worker) {stage : Stage}
    (handling : next.loop = .handling received stage)
    (executing : next.executing = worker.executing)
    (state : next.shared.machine = worker.shared.machine)
    (owner : next.owner = worker.owner) (starting : next.starting = worker.starting)
    (stageHolds : stageTruthful next received stage) :
    Truthful next := by
  refine truthful_of_same truthful executing state owner starting ?_
  intro current currentStage currentHandling
  rw [handling] at currentHandling
  cases currentHandling
  exact stageHolds

private theorem truthful_setRunning (truthful : Truthful worker) {virtualUsers : Nat}
    (handling : worker.loop = .handling received (.settingRunning virtualUsers)) :
    Truthful
      { worker with
        shared := worker.shared.setState .running
        loop := .handling received (.storingVus virtualUsers) } := by
  have begins : worker.starting = some received.label := by simp [starting, handling]
  obtain ⟨executes, ready⟩ := truthful.begun _ begins
  exact
    { owned := by
        intro label member
        have owned := truthful.owned label member
        simpa [owner, handling, Shared.setState] using owned
      stage := by
        intro current stage currentHandling
        cases currentHandling
        exact True.intro
      begun := by
        intro label impossible
        cases impossible
      settled := by
        intro _
        refine Or.inr ⟨?_, List.ne_nil_of_mem executes⟩
        simp [Shared.setState, WorkerStateMachine.setState_running, ready] }

theorem Truthful.of_move (wellFormed : WellFormed params worker) (truthful : Truthful worker)
    {action : WorkerAction} (allowed : truthfulGuard params worker action)
    (move : Move params worker action next) :
    Truthful next := by
  cases move with
  | receive received idle fresh => exact truthful_receive truthful idle fresh allowed
  | task label taskAction task after found admitted taken =>
    exact truthful_task wellFormed truthful found taken allowed
  | heartbeatAbort => exact truthful_heartbeatAbort truthful
  | beginOccupied received plan occupant handling occupied =>
    have free : worker.shared.run = none := truthful.stage _ _ handling
    rw [free] at occupied
    cases occupied
  | beginFree received plan handling =>
    exact
      truthful_advance truthful rfl rfl rfl (by simp [owner, handling])
        (by simp [starting, handling]) True.intro
  | setRunning received virtualUsers handling => exact truthful_setRunning truthful handling
  | storeVus received virtualUsers handling =>
    exact
      truthful_advance truthful rfl rfl rfl (by simp [owner, handling])
        (by simp [starting, handling]) True.intro
  | stopFree received handling free =>
    have unowned : worker.owner = none := by simp [owner, handling, free]
    have quiet := executing_eq_nil_of_unowned truthful unowned
    exact
      truthful_advance truthful rfl rfl rfl (by simp [owner, handling])
        (by simp [starting, handling]) quiet
  | stopTake received label handling occupied =>
    exact
      truthful_advance truthful rfl rfl rfl (by simp [owner, handling, occupied])
        (by simp [starting, handling]) True.intro
  | stopCancel received label handling =>
    exact
      truthful_advance truthful rfl (executing_cancelTask worker label) rfl
        (by simp [owner, handling]) (by simp [starting, handling]) True.intro
  | stopJoin received label task handling found finished =>
    have owned : worker.owner = some label := by simp [owner, handling]
    have quiet : worker.executing = [] :=
      executing_eq_nil_of_owner truthful owned (by simp [active, found, finished])
    have notStarting : worker.starting = none := by simp [starting, handling]
    have ready := ready_of_quiet truthful quiet notStarting
    refine truthful_of_quiet quiet ready rfl ?_
    intro current stage currentHandling
    cases currentHandling
    exact quiet
  | stopStore received handling =>
    exact
      truthful_advance truthful rfl rfl rfl (by simp [owner, handling])
        (by simp [starting, handling]) (Or.inr (truthful.stage _ _ handling))
  | abort received handling =>
    exact
      truthful_advance truthful rfl (executing_cancelRun worker) (by simp)
        (by simp [owner, handling]) (by simp [starting, handling])
        (Or.inl (truthful.stage _ _ handling))
  | setReady received handling =>
    have quiet : worker.executing = [] := by
      simp only [truthfulGuard, handling] at allowed
      rcases truthful.stage _ _ handling with isAbort | quiet
      · exact allowed isAbort
      · exact quiet
    refine truthful_of_quiet quiet (by simp [Shared.setState]) rfl ?_
    intro current stage currentHandling
    cases currentHandling
    exact True.intro
  | acknowledge received status errorMessage handling =>
    refine
      truthful_of_same truthful rfl rfl (by simp [owner, handling])
        (by simp [starting, handling]) ?_
    intro current stage currentHandling
    cases currentHandling

end Preservation

/-- In every run that meets the guard, what the worker advertises between two commands
is truthful: READY only while no run task is executing, RUNNING only while one is. -/
theorem advertised_state_truthful (params : RunParams) (worker : Worker)
    (reached : Reaches (step params) (truthfulGuard params) new worker)
    (idle : worker.loop = .idle) :
    (worker.shared.machine.state = .ready → worker.executing = []) ∧
      (worker.shared.machine.state = .running → worker.executing ≠ []) := by
  have truthful : Truthful worker := by
    have invariant : WellFormed params worker ∧ Truthful worker := by
      apply reached.invariant (fun state => WellFormed params state ∧ Truthful state)
      · intro state action next holds allowed taken
        have move := move_of_step taken
        exact ⟨holds.1.of_move move, holds.2.of_move holds.1 allowed move⟩
      · exact ⟨wellFormed_new params, truthful_new⟩
    exact invariant.2
  rcases truthful.settled (by simp [starting, idle]) with ⟨ready, quiet⟩ | ⟨running, busy⟩
  · refine ⟨fun _ => quiet, ?_⟩
    intro running
    rw [ready] at running
    cases running
  · refine ⟨?_, fun _ => busy⟩
    intro ready
    rw [running] at ready
    cases ready

theorem advertised_state_truthful_sample :
    ∃ worker,
      Reaches (step .sample) (truthfulGuard .sample) new worker ∧
        worker.loop = .idle ∧ worker.shared.machine.state = .running ∧
        worker.executing ≠ [] := by
  refine
    Reaches.exists_imp_of_executeChecked
      (fun worker => worker.loop = .idle ∧ worker.shared.machine.state = .running)
      [.receive (.sample 1 .start "run-1"), .advance 1,
        .task 1 (.orchestrator (.enter 0 0)), .advance 1, .advance 1, .advance 1,
        .task 1 (.launcher (.buildEngine true))]
      (by decide +kernel) ?_
  rintro worker reached ⟨idle, running⟩
  exact ⟨idle, running, (advertised_state_truthful .sample worker reached idle).2 running⟩

/-- The run task of a rejected START ends and advertises READY with no active virtual
users, while the acknowledged run goes on. -/
theorem advertised_ready_while_running_sample :
    ¬ ∀ worker,
        Reaches (step .sample) unguarded new worker → worker.loop = .idle →
          (worker.shared.machine.state = .ready ∧ worker.shared.activeVus = 0 →
              worker.executing = []) ∧
            (worker.shared.machine.state = .running → worker.executing ≠ []) := by
  refine
    Reaches.not_forall_of_executeChecked
      (fun worker => worker.loop = .idle ∧ worker.shared.machine.state = .ready ∧
        worker.shared.activeVus = 0 ∧ worker.executing = [1])
      [.receive (.sample 1 .start "run-1"), .advance 1, .advance 1, .advance 1,
        .advance 1, .task 1 (.orchestrator (.enter 1 0)),
        .task 1 (.launcher (.buildEngine true)), .task 1 (.launcher .spawnUser),
        .task 1 (.user 0 .start), .task 1 (.user 0 .check),
        .receive (.sample 2 .start "run-2"), .advance 2, .advance 2,
        .task 2 (.orchestrator (.enter 1 0)), .task 2 (.launcher (.buildEngine false)),
        .task 2 (.orchestrator .receiveMetric), .task 2 (.orchestrator (.flush 0)),
        .task 2 (.orchestrator .joinUsers), .task 2 (.uploader .acknowledge),
        .task 2 (.orchestrator .joinTelemetry), .task 2 (.orchestrator .resetVus),
        .task 2 (.orchestrator .setReady)] (by decide +kernel) ?_
  rintro worker _ ⟨idle, ready, noVus, busy⟩ truthful
  rw [(truthful idle).1 ⟨ready, noVus⟩] at busy
  cases busy

end Strobengine.Distributed.Worker
