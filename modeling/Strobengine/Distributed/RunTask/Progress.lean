import Strobengine.Distributed.RunTask.Capacity

/-!
# Stopped run tasks can finish

While the metric channel keeps its room, a stopped run task always has a draining step that
lowers a bound on its remaining work, so it can finish.
-/

namespace Strobengine.Distributed

open Metrics Foundations

def VirtualUser.work (user : VirtualUser) : Nat :=
  match user.phase with
  | .starting => 3
  | .checking => 2
  | .iterating => 5
  | .sending _ => 4
  | .closing => 1
  | .finished => 0

def Launcher.work (virtualUsers : Nat) : Launcher → Nat
  | .unspawned => 4 * virtualUsers + 4
  | .building => 4 * virtualUsers + 3
  | .spawning next => 4 * (virtualUsers - next) + 2
  | .joining => 1
  | .returned => 0

def Uploader.work : Uploader → Nat
  | .unspawned => 2
  | .streaming => 1
  | .ended => 0

def Phase.work : Phase → Nat
  | .spawned => 20
  | .collecting => 10
  | .sendingBatch _ => 12
  | .flushing => 9
  | .sendingFinal _ => 7
  | .joiningUsers => 5
  | .joiningTelemetry => 4
  | .resettingVus => 3
  | .settingReady => 2
  | .finished => 0

namespace RunTask

def work (task : RunTask) : Nat :=
  task.phase.work + task.launcher.work task.plan.virtualUsers +
    (task.users.map VirtualUser.work).sum + task.metrics.length +
    task.batches.length + task.uploader.work

def Stopping (task : RunTask) : Prop :=
  task.cancelled = true ∨ task.elapsed = true

/-- A step by which the run task drains what it holds: no outside event, no failure of
the upload, and no choice of the cancelled branch of `select!`. -/
def drainStep (params : RunParams) (task : RunTask) : TaskAction → Prop
  | .cancel => False
  | .elapse => False
  | .uploader .fail => False
  | .orchestrator .takeCancelled => False
  | action => capacityGuard params task action

def Progresses (params : RunParams) (task : RunTask) : Prop :=
  ∃ action next,
    drainStep params task action ∧ task.step params action = some next ∧ next.work < task.work

section Progress

variable {params : RunParams} {task : RunTask}

theorem capacityGuard_of_drainStep {action : TaskAction} (allowed : drainStep params task action) :
    capacityGuard params task action := by
  cases action with
  | cancel | elapse => exact False.elim allowed
  | uploader action =>
    cases action with
    | fail => exact False.elim allowed
    | _ => exact allowed
  | orchestrator action =>
    cases action with
    | takeCancelled => exact False.elim allowed
    | _ => exact allowed
  | _ => exact allowed

private theorem progresses_of_phase (action : TaskAction) (phase : Phase)
    (allowed : drainStep params task action)
    (taken : task.step params action = some { task with phase })
    (lower : phase.work < task.phase.work) :
    Progresses params task := by
  refine ⟨action, _, allowed, taken, ?_⟩
  simp only [work]
  omega

private theorem progresses_of_launcher (action : TaskAction) (launcher : Launcher)
    (allowed : drainStep params task action)
    (taken : task.step params action = some { task with launcher })
    (lower : launcher.work task.plan.virtualUsers < task.launcher.work task.plan.virtualUsers) :
    Progresses params task := by
  refine ⟨action, _, allowed, taken, ?_⟩
  simp only [work]
  omega

private theorem progresses_of_setUser
    {vu : Nat} {user : VirtualUser} (action : TaskAction) (moved : VirtualUser)
    (found : task.users[vu]? = some user) (allowed : drainStep params task action)
    (taken : task.step params action = some (task.setUser vu moved))
    (lower : moved.work < user.work) :
    Progresses params task := by
  have summed := sum_map_set VirtualUser.work moved found
  refine ⟨action, _, allowed, taken, ?_⟩
  simp only [work, setUser] at summed ⊢
  omega

private theorem progresses_of_upload
    (streaming : task.uploader = .streaming) (queued : task.batches ≠ []) :
    Progresses params task := by
  cases batches : task.batches with
  | nil => exact False.elim (queued batches)
  | cons batch rest =>
    refine
      ⟨.uploader .upload, { task with batches := rest, uploaded := task.uploaded ++ [batch] },
        True.intro, ?_, ?_⟩
    · simp only [step, stepUploader, streaming, batches]
    · simp only [work, batches, List.length_cons]
      omega

private theorem progresses_of_offer (batch : Proto.MetricBatch Nat) (accepted refused : Phase)
    (offering :
      task.step params (.orchestrator .sendBatch) = task.offerBatch batch accepted refused)
    (lowerAccepted : accepted.work + 1 < task.phase.work)
    (lowerRefused : refused.work < task.phase.work) :
    Progresses params task := by
  by_cases streaming : task.uploader = .streaming
  · by_cases space : task.batches.length < batchChannelCapacity
    · refine
        ⟨.orchestrator .sendBatch,
          { task with
            phase := accepted
            batches := task.batches ++ [batch]
            handed := task.handed ++ [batch] }, True.intro, ?_, ?_⟩
      · rw [offering]
        simp only [offerBatch, streaming, if_pos space]
      · simp only [work, List.length_append, List.length_singleton]
        omega
    · apply progresses_of_upload streaming
      intro empty
      rw [empty] at space
      exact space (by decide)
  · have taken : task.offerBatch batch accepted refused = some { task with phase := refused } := by
      unfold offerBatch
      cases uploader : task.uploader with
      | streaming => exact False.elim (streaming uploader)
      | unspawned | ended => rfl
    exact
      progresses_of_phase (.orchestrator .sendBatch) refused True.intro
        (offering.trans taken) lowerRefused

private theorem progresses_of_sendingBatch {batch : Proto.MetricBatch Nat}
    (sending : task.phase = .sendingBatch batch) :
    Progresses params task :=
  progresses_of_offer batch .collecting .flushing
    (by simp only [step, stepOrchestrator, sending])
    (by simp [sending, Phase.work]) (by simp [sending, Phase.work])

private theorem progresses_of_reader
    (begun : task.phase ≠ .spawned) (reading : task.readerGone = false)
    (queued : 0 < task.metrics.length) :
    Progresses params task := by
  cases phase : task.phase with
  | spawned => exact False.elim (begun phase)
  | collecting =>
    cases metrics : task.metrics with
    | nil => simp [metrics] at queued
    | cons metric rest =>
      refine
        ⟨.orchestrator .receiveMetric,
          { task with metrics := rest, collector := task.collector.record metric },
          True.intro, ?_, ?_⟩
      · simp only [step, stepOrchestrator, phase, metrics]
      · simp only [work, metrics, List.length_cons]
        omega
  | sendingBatch => exact progresses_of_sendingBatch phase
  | _ => simp [readerGone, phase, Phase.leftLoop] at reading

private theorem progresses_of_sender (reserved : Reserved task) (begun : task.phase ≠ .spawned)
    {vu index : Nat} {metric : RequestMetric}
    (found : task.users[vu]? = some ⟨index, .sending metric⟩) :
    Progresses params task := by
  by_cases dropped : task.phase = .finished
  · exact
      progresses_of_setUser (.user vu .send)
        ⟨index, .closing⟩ found True.intro
        (by simp only [step, stepUser, found, dropped, if_true])
        (by simp [VirtualUser.work])
  · by_cases space : task.metrics.length < metricChannelCapacity
    · have summed := sum_map_set VirtualUser.work ⟨index, .checking⟩ found
      refine
        ⟨.user vu .send,
          { task.setUser vu ⟨index, .checking⟩ with
            metrics := task.metrics ++ [metric]
            sent := task.sent ++ [metric] }, True.intro, ?_, ?_⟩
      · simp only [step, stepUser, found, if_neg dropped, if_pos space]
      · simp only [VirtualUser.work] at summed
        simp only [work, setUser, List.length_append, List.length_singleton]
        omega
    · have outstanding := length_lt_committed found rfl
      have reading : task.readerGone = false := by
        cases gone : task.readerGone with
        | false => rfl
        | true =>
          have room := reserved gone
          omega
      have positive : 0 < metricChannelCapacity := by decide
      exact progresses_of_reader begun reading (by omega)

private theorem progresses_of_user (reserved : Reserved task) (stopping : Stopping task)
    (begun : task.phase ≠ .spawned) {vu : Nat} {user : VirtualUser}
    (found : task.users[vu]? = some user) (unfinished : user.phase ≠ .finished) :
    Progresses params task := by
  obtain ⟨index, phase⟩ := user
  cases phase with
  | starting =>
    exact
      progresses_of_setUser (.user vu .start)
        ⟨index, .checking⟩ found True.intro
        (by simp only [step, stepUser, found])
        (by simp [VirtualUser.work])
  | checking =>
    have stops : (task.cancelled || task.elapsed) = true := by
      simpa [Stopping] using stopping
    refine
      progresses_of_setUser (.user vu .check)
        ⟨index, .closing⟩ found ?_
        (by simp only [step, stepUser, found, stops, if_true])
        (by simp [VirtualUser.work])
    intro _ notCancelled notElapsed
    simp [notCancelled, notElapsed] at stops
  | iterating =>
    exact
      progresses_of_setUser (.user vu (.respond { latencyMicros := 0 }))
        ⟨index, .sending { latencyMicros := 0 }⟩ found True.intro
        (by simp only [step, stepUser, found])
        (by simp [VirtualUser.work])
  | sending => exact progresses_of_sender reserved begun found
  | closing =>
    exact
      progresses_of_setUser (.user vu .close)
        ⟨index, .finished⟩ found True.intro
        (by simp only [step, stepUser, found])
        (by simp [VirtualUser.work])
  | finished => exact False.elim (unfinished rfl)

private theorem progresses_of_joiningTelemetry
    (wellFormed : WellFormed task) (joining : task.phase = .joiningTelemetry) :
    Progresses params task := by
  have begun : task.phase ≠ .spawned := by simp [joining]
  cases uploader : task.uploader with
  | unspawned => exact False.elim ((wellFormed.started begun).2 uploader)
  | streaming =>
    by_cases empty : task.batches = []
    · refine ⟨.uploader .acknowledge, { task with uploader := .ended }, True.intro, ?_, ?_⟩
      · simp only [step, stepUploader, uploader, empty, joining, Phase.halfClosed, if_true]
      · simp only [work, uploader, Uploader.work]
        omega
    · exact progresses_of_upload uploader empty
  | ended =>
    exact
      progresses_of_phase (.orchestrator .joinTelemetry) .resettingVus True.intro
        (by simp only [step, stepOrchestrator, joining, uploader])
        (by simp [joining, Phase.work])

private theorem progresses_of_collecting
    (wellFormed : WellFormed task) (returned : task.launcher = .returned)
    (collecting : task.phase = .collecting) :
    Progresses params task := by
  by_cases empty : task.metrics = []
  · have dropped : task.sendersDropped = true := by
      simpa [sendersDropped, returned] using wellFormed.returnedUsers returned
    exact
      progresses_of_phase (.orchestrator .receiveMetric) .flushing True.intro
        (by simp only [step, stepOrchestrator, collecting, empty, dropped, if_true])
        (by simp [collecting, Phase.work])
  · exact
      progresses_of_reader (by simp [collecting])
        (by simp [readerGone, collecting, Phase.leftLoop])
        (List.length_pos_iff.mpr empty)

private theorem progresses_of_returned (wellFormed : WellFormed task)
    (begun : task.phase ≠ .spawned) (unfinished : task.phase ≠ .finished)
    (returned : task.launcher = .returned) :
    Progresses params task := by
  cases phase : task.phase with
  | spawned => exact False.elim (begun phase)
  | collecting => exact progresses_of_collecting wellFormed returned phase
  | sendingBatch => exact progresses_of_sendingBatch phase
  | flushing =>
    cases taken : task.collector.takeBatch params.hdr 0 with
    | none =>
      exact
        progresses_of_phase (.orchestrator (.flush 0)) .joiningUsers True.intro
          (by simp only [step, stepOrchestrator, phase, taken])
          (by simp [phase, Phase.work])
    | some pair =>
      obtain ⟨batch, collector⟩ := pair
      refine
        ⟨.orchestrator (.flush 0),
          { task with phase := .sendingFinal batch, collector },
          True.intro, ?_, ?_⟩
      · simp only [step, stepOrchestrator, phase, taken]
      · simp only [work, phase, Phase.work]
        omega
  | sendingFinal batch =>
    exact
      progresses_of_offer batch .joiningUsers .joiningUsers
        (by simp only [step, stepOrchestrator, phase])
        (by simp [phase, Phase.work]) (by simp [phase, Phase.work])
  | joiningUsers =>
    exact
      progresses_of_phase (.orchestrator .joinUsers) .joiningTelemetry True.intro
        (by simp only [step, stepOrchestrator, phase, returned])
        (by simp [phase, Phase.work])
  | joiningTelemetry => exact progresses_of_joiningTelemetry wellFormed phase
  | resettingVus =>
    exact
      progresses_of_phase (.orchestrator .resetVus) .settingReady True.intro
        (by simp only [step, stepOrchestrator, phase])
        (by simp [phase, Phase.work])
  | settingReady =>
    exact
      progresses_of_phase (.orchestrator .setReady) .finished True.intro
        (by simp only [step, stepOrchestrator, phase])
        (by simp [phase, Phase.work])
  | finished => exact False.elim (unfinished phase)

private theorem progresses_of_spawning {position : Nat}
    (spawning : task.launcher = .spawning position) :
    Progresses params task := by
  by_cases more : position < task.plan.virtualUsers
  · refine
      ⟨.launcher .spawnUser,
        { task with
          launcher := .spawning (position + 1)
          users := task.users ++ [{ index := position, phase := .starting }] },
        True.intro, ?_, ?_⟩
    · simp only [step, stepLauncher, spawning, if_pos more]
    · simp only [work, spawning, Launcher.work, VirtualUser.work, List.map_append,
        List.sum_append, List.map_cons, List.map_nil, List.sum_cons, List.sum_nil]
      omega
  · exact
      progresses_of_launcher (.launcher .dropSender) .joining True.intro
        (by simp only [step, stepLauncher, spawning, if_neg more])
        (by simp [spawning, Launcher.work])

theorem progresses (wellFormed : WellFormed task) (reserved : Reserved task)
    (stopping : Stopping task) (unfinished : task.phase ≠ .finished) :
    Progresses params task := by
  by_cases spawned : task.phase = .spawned
  · obtain ⟨launcher, uploader⟩ := wellFormed.unstarted spawned
    refine
      ⟨.orchestrator (.enter 0 0),
        { task with
          phase := .collecting
          launcher := .building
          uploader := .streaming
          collector :=
            (WindowedCollector.new params.workerId task.testRunId
              params.windowMs 0).setActiveVus 0 }, True.intro, ?_, ?_⟩
    · simp only [step, stepOrchestrator, spawned]
    · simp only [work, spawned, launcher, uploader, Phase.work, Launcher.work, Uploader.work]
      omega
  · cases launcher : task.launcher with
    | unspawned => exact False.elim ((wellFormed.started spawned).1 launcher)
    | building =>
      exact
        progresses_of_launcher (.launcher (.buildEngine true)) (.spawning 0) True.intro
          (by simp only [step, stepLauncher, launcher, if_true])
          (by simp [launcher, Launcher.work])
    | spawning => exact progresses_of_spawning launcher
    | joining =>
      by_cases allFinished : ∀ user ∈ task.users, user.phase = .finished
      · exact
          progresses_of_launcher (.launcher .joinHandles) .returned True.intro
            (by
              simp only [step, stepLauncher, launcher]
              rw [if_pos (by simpa using allFinished)])
            (by simp [launcher, Launcher.work])
      · simp only [not_forall] at allFinished
        obtain ⟨user, present, moving⟩ := allFinished
        obtain ⟨vu, found⟩ := List.mem_iff_getElem?.mp present
        exact progresses_of_user reserved stopping spawned found moving
    | returned => exact progresses_of_returned wellFormed spawned unfinished launcher

/-- Neither a STOP nor the upload takes part. -/
def unattended (params : RunParams) (task : RunTask) : TaskAction → Prop
  | .cancel => False
  | .uploader _ => False
  | action => capacityGuard params task action

/-- An upload that has ended takes no step any more. -/
theorem ended_of_move {action : TaskAction} {next : RunTask} (ended : task.uploader = .ended)
    (begun : task.phase ≠ .spawned) (allowed : drainStep params task action)
    (move : Move params task action next) :
    unattended params task action ∧ next.uploader = .ended ∧ next.phase ≠ .spawned := by
  cases move with
  | enter activeVus now spawned => exact absurd spawned begun
  | cancel | uploadFail => exact False.elim allowed
  | upload _ _ streaming | acknowledge streaming =>
    rw [ended] at streaming
    cases streaming
  | _ =>
    refine ⟨capacityGuard_of_drainStep allowed, ended, ?_⟩
    first | exact begun | simp

theorem Stopping.of_move {action : TaskAction} {next : RunTask}
    (stopping : Stopping task) (move : Move params task action next) :
    Stopping next := by
  cases move with
  | cancel => exact Or.inl rfl
  | elapse => exact Or.inr rfl
  | _ => exact stopping

/-- From every state that keeps its room, a stopped run task can be run to its end by
draining steps. -/
theorem finishes_of_stopping (wellFormed : WellFormed task) (reserved : Reserved task)
    (stopping : Stopping task) :
    ∃ finished,
      Reaches (step params) (drainStep params) task finished ∧ finished.phase = .finished := by
  refine
    Reaches.final_of_measure
      (fun state => WellFormed state ∧ Reserved state ∧ Stopping state)
      (fun state => state.phase = .finished)
      work ?_ ⟨wellFormed, reserved, stopping⟩
  intro state holds unfinished
  obtain ⟨stateWellFormed, stateReserved, stateStopping⟩ := holds
  obtain ⟨action, next, allowed, taken, smaller⟩ : Progresses params state :=
    progresses stateWellFormed stateReserved stateStopping unfinished
  have move := move_of_step taken
  have kept :=
    reserved_of_move stateWellFormed stateReserved
      (capacityGuard_of_drainStep allowed) move
  exact
    ⟨action, next, allowed, taken,
      ⟨stateWellFormed.of_move move, kept, stateStopping.of_move move⟩, smaller⟩

end Progress

/-- While the metric channel has room for what is outstanding whenever the collector
stops reading, the orchestrator never waits for a virtual user that is blocked for
good. A run that was stopped, or whose duration is over, can then finish by draining
steps. One whose upload has ended, and which has a duration, can finish without a STOP and without
its upload. -/
theorem runTask_can_finish
    (params : RunParams) (plan : ExecutionPlan) (testRunId : String) (task : RunTask)
    (reached : Reaches (step params) (capacityGuard params) (spawn params plan testRunId) task) :
    ¬ BlockedForever params task ∧
      (Stopping task →
        ∃ finished,
          Reaches (step params) (drainStep params) task finished ∧ finished.phase = .finished) ∧
      (task.uploader = .ended → task.plan.duration.isSome = true →
        ∃ finished,
          Reaches (step params) (unattended params) task finished ∧
            finished.phase = .finished) := by
  obtain ⟨wellFormed, reserved⟩ := reserved_of_reaches reached
  refine ⟨not_blockedForever reserved, finishes_of_stopping wellFormed reserved, ?_⟩
  intro ended bounded
  have elapsed : task.step params .elapse = some { task with elapsed := true } := if_pos bounded
  have begun : task.phase ≠ .spawned := by
    intro spawned
    have unspawned := (wellFormed.unstarted spawned).2
    rw [ended] at unspawned
    cases unspawned
  have kept : Reserved { task with elapsed := true } := reserved
  obtain ⟨finished, later, atEnd⟩ :=
    finishes_of_stopping (wellFormed.of_move (move_of_step elapsed)) kept (Or.inr rfl)
  refine ⟨finished, Reaches.head .elapse True.intro elapsed ?_, atEnd⟩
  exact
    later.mono_of_invariant (fun state => state.uploader = .ended ∧ state.phase ≠ .spawned)
      (fun _ _ _ holds allowed taken =>
        ended_of_move holds.1 holds.2 allowed (move_of_step taken))
      ⟨ended, begun⟩

/-- Two virtual users are in flight and a metric is queued when the upload fails; the run can go on
to the end of its duration. Stopped, it leaves the loop with all that outstanding and can finish. -/
theorem runTask_can_finish_sample :
    ∃ failed,
      Reaches (step .sample) (capacityGuard .sample) (spawn .sample .timed "run-1") failed ∧
        (failed.uploader = .ended ∧ failed.cancelled = false ∧ failed.metrics.length = 1 ∧
          failed.users.countP VirtualUser.inFlight = 2) ∧
        (∃ finished,
          Reaches (step .sample) (unattended .sample) failed finished ∧
            finished.phase = .finished) ∧
        ∃ stopped,
          Reaches (step .sample) (capacityGuard .sample) failed stopped ∧
            (stopped.readerGone = true ∧ stopped.committed = 3) ∧
            ¬ BlockedForever .sample stopped ∧
            ∃ finished,
              Reaches (step .sample) (drainStep .sample) stopped finished ∧
                finished.phase = .finished := by
  refine
    Reaches.exists_imp_of_executeChecked
      (fun failed =>
        (failed.uploader = .ended ∧ failed.cancelled = false ∧ failed.metrics.length = 1 ∧
          failed.users.countP VirtualUser.inFlight = 2) ∧
        failed.plan.duration.isSome = true ∧
        (executeChecked (step .sample) (capacityGuard .sample) failed
          [.cancel, .orchestrator .takeCancelled]).any (fun stopped =>
            decide ((stopped.readerGone = true ∧ stopped.committed = 3) ∧
              stopped.cancelled = true)) = true)
      [.orchestrator (.enter 2 0), .launcher (.buildEngine true), .launcher .spawnUser,
        .launcher .spawnUser, .user 0 .start, .user 1 .start, .user 0 .check,
        .user 0 (.respond { latencyMicros := 1000 }), .user 0 .send, .user 0 .check,
        .user 1 .check, .user 1 (.respond { latencyMicros := 2000 }), .uploader .fail]
      (by decide +kernel) ?_
  rintro failed reached ⟨outstanding, bounded, evaluated⟩
  obtain ⟨stopped, later, left, cancelled⟩ := Reaches.exists_of_executeChecked _ evaluated
  have unstopped := runTask_can_finish .sample .timed "run-1" failed reached
  have after := runTask_can_finish .sample .timed "run-1" stopped (reached.trans later)
  exact
    ⟨outstanding, unstopped.2.2 outstanding.1 bounded, stopped, later, left, after.1,
      after.2.1 (Or.inl cancelled)⟩

/-! ## Without the room every plan has a blocked run -/

theorem leftLoop_of_move {params : RunParams} {task next : RunTask} {action : TaskAction}
    (left : task.phase.leftLoop = true) (move : Move params task action next) :
    next.phase.leftLoop = true := by
  cases move with
  | enter | tickBatch | batchAccepted => rw [‹task.phase = _›] at left; cases left
  | takeCancelled | channelClosed | batchRefused | finalAccepted | finalRefused | flushEmpty
  | flushBatch | joinUsers | joinTelemetry | resetVus | setReady => rfl
  | _ => exact left

theorem not_collecting_of_leftLoop {params : RunParams} {task later : RunTask}
    (left : task.phase.leftLoop = true) (reached : Reaches (step params) unguarded task later) :
    later.phase ≠ .collecting := by
  have stillLeft : later.phase.leftLoop = true := by
    apply reached.invariant (fun state => state.phase.leftLoop = true)
    · intro state action next holds _ taken
      exact leftLoop_of_move holds (move_of_step taken)
    · exact left
  intro collecting
  rw [collecting] at stillLeft
  cases stillLeft

structure Filling (queued : Nat) (task : RunTask) : Prop where
  collecting : task.phase = .collecting
  notCancelled : task.cancelled = false
  notElapsed : task.elapsed = false
  lone : ∃ index, task.users = [⟨index, .checking⟩]
  queue : task.metrics.length = queued
  unread : task.collector.total = 0

private def reply : RequestMetric := { latencyMicros := 1000 }

private theorem filling_zero (params : RunParams) (plan : ExecutionPlan) (testRunId : String) :
    ∃ task,
      Reaches (step params) unguarded (spawn params plan testRunId) task ∧ Filling 0 task := by
  refine
    ⟨_,
      .head (.orchestrator (.enter plan.virtualUsers 0)) True.intro rfl
        (.head (.launcher (.buildEngine true)) True.intro rfl
          (.head (.launcher .spawnUser) True.intro
            (if_pos plan.virtualUsersPositive)
            (.single (.user 0 .start) True.intro rfl))),
      ?_⟩
  exact
    { collecting := rfl
      notCancelled := rfl
      notElapsed := rfl
      lone := ⟨0, rfl⟩
      queue := rfl
      unread := rfl }

private theorem filling_respond (params : RunParams) {queued : Nat} {task : RunTask}
    (filling : Filling queued task) :
    ∃ index iterations,
      Reaches (step params) unguarded task
        { task with
          users := [⟨index, .sending reply⟩]
          iterations } := by
  obtain ⟨index, users⟩ := filling.lone
  have checked :
      step params task (.user 0 .check) =
        some
          { task with
            users := [⟨(index + 1) % 2 ^ 64, .iterating⟩]
            iterations := task.iterations ++ [task.plan.target index] } := by
    simp [step, stepUser, users, filling.notCancelled, filling.notElapsed, setUser]
  exact
    ⟨_, _,
      .head (.user 0 .check) True.intro checked
        (.single (.user 0 (.respond reply)) True.intro rfl)⟩

private theorem filling_succ (params : RunParams) {queued : Nat} {task : RunTask}
    (filling : Filling queued task) (space : queued < metricChannelCapacity) :
    ∃ next, Reaches (step params) unguarded task next ∧ Filling (queued + 1) next := by
  obtain ⟨index, iterations, responded⟩ := filling_respond params filling
  refine
    ⟨{ task with
        users := [⟨index, .checking⟩]
        iterations
        metrics := task.metrics ++ [reply]
        sent := task.sent ++ [reply] },
      responded.trans (.single (.user 0 .send) True.intro ?_), ?_⟩
  · simp [step, stepUser, filling.collecting, filling.queue, space, setUser]
  · exact
      { collecting := filling.collecting
        notCancelled := filling.notCancelled
        notElapsed := filling.notElapsed
        lone := ⟨index, rfl⟩
        queue := by simp [filling.queue]
        unread := filling.unread }

private theorem filling_reached
    (params : RunParams) (plan : ExecutionPlan) (testRunId : String) (queued : Nat)
    (bounded : queued ≤ metricChannelCapacity) :
    ∃ task,
      Reaches (step params) unguarded (spawn params plan testRunId) task ∧ Filling queued task := by
  induction queued with
  | zero => exact filling_zero params plan testRunId
  | succ queued ih =>
    obtain ⟨task, reached, filling⟩ := ih (by omega)
    obtain ⟨next, later, filled⟩ := filling_succ params filling (by omega)
    exact ⟨next, reached.trans later, filled⟩

/-- For every plan, a cancellation that finds the channel full and one iteration still
in flight leaves the run blocked forever. -/
theorem blockedForever_reachable (params : RunParams) (plan : ExecutionPlan) (testRunId : String) :
    ∃ task,
      Reaches (step params) unguarded (spawn params plan testRunId) task ∧
        BlockedForever params task := by
  obtain ⟨task, reached, filling⟩ :=
    filling_reached params plan testRunId metricChannelCapacity (Nat.le_refl _)
  obtain ⟨index, iterations, responded⟩ := filling_respond params filling
  have flushed : task.collector.takeBatch params.hdr 0 = none := by
    simp [WindowedCollector.takeBatch, filling.unread]
  refine
    ⟨{ task with
        users := [⟨index, .sending reply⟩]
        iterations
        cancelled := true
        phase := .joiningUsers },
      (reached.trans responded).trans
        (.head .cancel True.intro rfl
          (.head (.orchestrator .takeCancelled) True.intro
            (by simp only [step, stepOrchestrator, filling.collecting, if_true]; rfl)
            (.single (.orchestrator (.flush 0)) True.intro ?_))), ?_⟩
  · simp only [step, stepOrchestrator, flushed]
  · exact
      { waiting := rfl
        blocked := ⟨0, index, reply, rfl⟩
        full := Nat.le_of_eq filling.queue.symm
        unread := fun later => not_collecting_of_leftLoop rfl }

/-- One virtual user is enough to block its run forever. -/
theorem runTask_blocks_sample :
    ¬ ∀ task,
        Reaches (step .sample) unguarded (spawn .sample .sample "run-1") task →
          ¬ BlockedForever .sample task := by
  intro neverBlocked
  obtain ⟨task, reached, blocked⟩ := blockedForever_reachable .sample .sample "run-1"
  exact neverBlocked task reached blocked

end RunTask

end Strobengine.Distributed
