import Strobengine.Distributed.RunTask.Progress

/-!
# Delivery of the sent metrics

Every metric that a virtual user has sent is in exactly one place: in a batch handed to the
uploader or about to be handed to it, in the open window of the collector, or in the metric
channel.
-/

namespace Strobengine.Distributed

open Metrics Foundations

namespace Phase

def offered : Phase → List (Proto.MetricBatch Nat)
  | .sendingBatch batch => [batch]
  | .sendingFinal batch => [batch]
  | _ => []

def windowless : Phase → Bool
  | .spawned => true
  | .sendingFinal _ => true
  | phase => phase.halfClosed

theorem leftLoop_of_halfClosed {phase : Phase} (closed : phase.halfClosed = true) :
    phase.leftLoop = true := by
  cases phase <;> first | rfl | cases closed

theorem windowless_of_halfClosed {phase : Phase} (closed : phase.halfClosed = true) :
    phase.windowless = true := by
  cases phase <;> first | rfl | cases closed

end Phase

namespace RunTask

def uploadAccepts (task : RunTask) : TaskAction → Prop
  | .uploader .fail => task.phase.halfClosed = true
  | _ => True

/-- The upload stream accepts batches, and the cancelled branch is taken only when no
metric is queued and no virtual user is in flight. -/
def drainedGuard (task : RunTask) : TaskAction → Prop
  | .orchestrator .takeCancelled => task.committed = 0
  | action => task.uploadAccepts action

instance (task : RunTask) (action : TaskAction) : Decidable (task.uploadAccepts action) := by
  unfold uploadAccepts
  split <;> infer_instance

instance (task : RunTask) (action : TaskAction) : Decidable (task.drainedGuard action) := by
  unfold drainedGuard
  split <;> infer_instance

/-- Every metric sent so far is counted in exactly one of the batches handed over. -/
def AllDelivered (task : RunTask) : Prop :=
  ∃ segments : List (List RequestMetric),
    task.sent = segments.flatten ∧ List.Forall₂ BatchCounts task.handed segments

structure Quiet (task : RunTask) : Prop where
  idle : task.committed = 0
  closing : task.cancelled = true ∨ task.sendersDropped = true

/-- Where the sent metrics are: `segments` in the batches, `window` in the collector. -/
structure Ledger (task : RunTask) (segments : List (List RequestMetric))
    (window : List RequestMetric) : Prop where
  accounted : task.sent = segments.flatten ++ window ++ task.metrics
  counted : List.Forall₂ BatchCounts (task.handed ++ task.phase.offered) segments
  collected : task.collector.Accumulates window
  emptied : task.phase.windowless = true → window = []

structure Delivering (task : RunTask) : Prop where
  ledger : ∃ segments window, Ledger task segments window
  quiet : task.phase.leftLoop = true → Quiet task
  streaming : task.phase ≠ .spawned → task.phase.halfClosed = false → task.uploader = .streaming

theorem delivering_spawn (params : RunParams) (plan : ExecutionPlan) (testRunId : String) :
    Delivering (spawn params plan testRunId) where
  ledger :=
    ⟨[], [],
      { accounted := rfl
        counted := .nil
        collected :=
          WindowedCollector.accumulates_new params.workerId testRunId params.windowMs 0 0
        emptied := fun _ => rfl }⟩
  quiet := by
    intro left
    cases left
  streaming := fun different => False.elim (different rfl)

section Preservation

variable {params : RunParams} {task next : RunTask} {action : TaskAction} {vu : Nat}
  {user : VirtualUser}

private theorem false_of_sendersDropped (dropped : task.sendersDropped = true)
    (found : task.users[vu]? = some user) (unfinished : user.phase ≠ .finished) :
    False := by
  simp only [sendersDropped, Bool.and_eq_true, List.all_eq_true, decide_eq_true_eq] at dropped
  exact unfinished (dropped.2 user (List.mem_of_getElem? found))

private theorem quiet_setUser {moved : VirtualUser}
    (quiet : Quiet task) (found : task.users[vu]? = some user)
    (unfinished : user.phase ≠ .finished) (resting : moved.inFlight = false) :
    Quiet (task.setUser vu moved) where
  idle := by
    have counted := committed_setUser moved found
    have idle := quiet.idle
    rw [resting, Bool.toNat_false] at counted
    omega
  closing := by
    rcases quiet.closing with cancelled | dropped
    · exact Or.inl cancelled
    · exact False.elim (false_of_sendersDropped dropped found unfinished)

private theorem not_inFlight_of_quiet (quiet : Quiet task) (found : task.users[vu]? = some user) :
    user.inFlight ≠ true := by
  intro flying
  have outstanding := length_lt_committed found flying
  have idle := quiet.idle
  omega

private theorem quiet_of_userMove {userAction : UserAction}
    (quiet : Quiet task) (move : Move params task (.user vu userAction) next) :
    Quiet next := by
  cases move with
  | userStart | userStop | userClose => exact quiet_setUser quiet ‹_› (by simp) rfl
  | userBegin _ index found notCancelled =>
    rcases quiet.closing with cancelled | dropped
    · rw [cancelled] at notCancelled
      cases notCancelled
    · exact False.elim (false_of_sendersDropped dropped found (by simp))
  | _ => exact False.elim (not_inFlight_of_quiet quiet ‹_› rfl)

private theorem quiet_of_launcherMove {launcherAction : LauncherAction}
    (quiet : Quiet task) (move : Move params task (.launcher launcherAction) next) :
    Quiet next := by
  have idle := quiet.idle
  have closing := quiet.closing
  cases move with
  | spawnUser position spawning =>
    refine ⟨by simpa [committed, VirtualUser.inFlight] using idle, ?_⟩
    rcases closing with cancelled | dropped
    · exact Or.inl cancelled
    · simp [sendersDropped, spawning] at dropped
  | _ =>
    refine ⟨idle, closing.imp_right ?_⟩
    simp [sendersDropped, *]

theorem Quiet.of_move (quiet : Quiet task) (left : task.phase.leftLoop = true)
    (move : Move params task action next) :
    Quiet next := by
  cases action with
  | user => exact quiet_of_userMove quiet move
  | launcher => exact quiet_of_launcherMove quiet move
  | orchestrator =>
    cases move with
    | enter activeVus now spawned => simp [spawned, Phase.leftLoop] at left
    | receiveMetric metric rest collecting => simp [collecting, Phase.leftLoop] at left
    | _ => exact ⟨quiet.idle, quiet.closing⟩
  | cancel =>
    cases move
    exact ⟨quiet.idle, Or.inl rfl⟩
  | _ => cases move <;> exact ⟨quiet.idle, quiet.closing⟩

private theorem quiet_of_leaving (delivering : Delivering task) (allowed : task.drainedGuard action)
    (staying : task.phase.leftLoop = false)
    (move : Move params task action next) (left : next.phase.leftLoop = true) :
    Quiet next := by
  cases move with
  | takeCancelled collecting cancelled => exact ⟨allowed, Or.inl cancelled⟩
  | channelClosed collecting empty dropped =>
    exact ⟨committed_of_sendersDropped empty dropped, Or.inr dropped⟩
  | batchRefused batch sending ended =>
    exact
      False.elim
        (ended (delivering.streaming (by simp [sending])
          (by simp [sending, Phase.halfClosed])))
  | enter | batchAccepted | tickBatch => cases left
  | finalAccepted | finalRefused | flushEmpty | flushBatch | joinUsers | joinTelemetry | resetVus
  | setReady =>
    rw [‹task.phase = _›] at staying
    cases staying
  | _ => cases staying.symm.trans left

private theorem streaming_of_move
    (delivering : Delivering task) (allowed : task.drainedGuard action)
    (move : Move params task action next) :
    next.phase ≠ .spawned → next.phase.halfClosed = false → next.uploader = .streaming := by
  have streaming := delivering.streaming
  cases move with
  | enter => exact fun _ _ => rfl
  | takeCancelled | channelClosed | tickBatch | batchRefused | flushBatch =>
    exact fun _ _ => streaming (by simp [*]) (by simp [*, Phase.halfClosed])
  | batchAccepted batch sending streams => exact fun _ _ => streams
  | finalAccepted | finalRefused | flushEmpty | joinUsers | joinTelemetry | resetVus | setReady =>
    intro _ opened; cases opened
  | acknowledge streams empty closed =>
    intro _ opened
    exact absurd closed (by simp [opened])
  | uploadFail =>
    intro _ opened
    exact absurd (show task.phase.halfClosed = true from allowed) (by simp [opened])
  | _ => exact streaming

variable {segments : List (List RequestMetric)} {window : List RequestMetric} {phase : Phase}

private theorem Ledger.take
    (ledger : Ledger task segments window) {now : Int} {batch : Proto.MetricBatch Nat}
    {collector : WindowedCollector} (offering : task.phase.offered = [])
    (taken : task.collector.takeBatch params.hdr now = some (batch, collector))
    (offered : phase.offered = [batch]) :
    Ledger { task with phase, collector }
      (segments ++ [window]) [] := by
  obtain ⟨counts, restarted⟩ := ledger.collected.takeBatch_eq_some taken
  exact
    { accounted := by
        rw [ledger.accounted]
        simp
      counted := by
        have counted := ledger.counted
        rw [offering, List.append_nil] at counted
        simp only [offered]
        exact List.rel_append counted (.cons counts .nil)
      collected := restarted
      emptied := fun _ => rfl }

private theorem Ledger.rephase (ledger : Ledger task segments window)
    (same : phase.offered = task.phase.offered) (emptied : phase.windowless = true → window = []) :
    Ledger { task with phase } segments window :=
  { accounted := ledger.accounted
    counted := by
      rw [same]
      exact ledger.counted
    collected := ledger.collected
    emptied }

private theorem Ledger.accept (ledger : Ledger task segments window) {batch : Proto.MetricBatch Nat}
    (offering : task.phase.offered = [batch]) (offered : phase.offered = [])
    (emptied : phase.windowless = true → window = []) :
    Ledger
      { task with
        phase
        batches := task.batches ++ [batch]
        handed := task.handed ++ [batch] } segments window :=
  { accounted := ledger.accounted
    counted := by
      have counted := ledger.counted
      rw [offering] at counted
      simpa only [offered, List.append_nil] using counted
    collected := ledger.collected
    emptied }

private theorem ledger_of_orchestratorMove {orchestratorAction : OrchestratorAction}
    (delivering : Delivering task) (ledger : Ledger task segments window)
    (move : Move params task (.orchestrator orchestratorAction) next) :
    ∃ nextSegments nextWindow, Ledger next nextSegments nextWindow := by
  have streaming : ∀ {phase : Phase}, task.phase = phase → phase ≠ .spawned →
      phase.halfClosed = false → task.uploader = .streaming := by
    intro phase same begun notClosed
    subst same
    exact delivering.streaming begun notClosed
  cases move with
  | enter activeVus now spawned =>
    have empty : window = [] := ledger.emptied (by rw [spawned]; rfl)
    subst empty
    refine
      ⟨segments, [],
        { accounted := ledger.accounted
          counted := ?_
          collected :=
            WindowedCollector.accumulates_new params.workerId task.testRunId
              params.windowMs activeVus now
          emptied := fun _ => rfl }⟩
    simpa [spawned, Phase.offered] using ledger.counted
  | takeCancelled | channelClosed =>
    exact
      ⟨segments, window,
        ledger.rephase (by rw [‹task.phase = _›]; rfl) (fun closed => by cases closed)⟩
  | receiveMetric metric rest collecting queued =>
    refine
      ⟨segments, window ++ [metric],
        { accounted := ?_
          counted := ledger.counted
          collected := ledger.collected.record metric
          emptied := ?_ }⟩
    · rw [ledger.accounted, queued]
      simp
    · intro windowless
      simp [collecting, Phase.windowless, Phase.halfClosed] at windowless
  | tickEmpty => exact ⟨segments, window, ledger⟩
  | tickBatch | flushBatch => exact ⟨_, _, ledger.take (by rw [‹task.phase = _›]; rfl) ‹_› rfl⟩
  | batchAccepted batch sending =>
    exact
      ⟨segments, window, ledger.accept (by rw [sending]; rfl) rfl (fun closed => by cases closed)⟩
  | batchRefused batch sending ended =>
    exact False.elim (ended (streaming sending (fun same => by cases same) rfl))
  | finalAccepted batch sending =>
    refine ⟨segments, window, ledger.accept (by rw [sending]; rfl) rfl fun _ => ?_⟩
    exact ledger.emptied (by rw [sending]; rfl)
  | finalRefused batch sending ended =>
    exact False.elim (ended (streaming sending (fun same => by cases same) rfl))
  | flushEmpty now flushing empty =>
    refine ⟨segments, window, ledger.rephase (by rw [flushing]; rfl) fun _ => ?_⟩
    exact ledger.collected.takeBatch_eq_none empty
  | _ =>
    have before := ‹task.phase = _›
    refine ⟨segments, window, ledger.rephase (by rw [before]; rfl) fun _ => ?_⟩
    exact ledger.emptied (by rw [before]; rfl)

private theorem ledger_of_move
    (delivering : Delivering task) (move : Move params task action next) :
    ∃ segments window, Ledger next segments window := by
  obtain ⟨segments, window, ledger⟩ := delivering.ledger
  cases action with
  | orchestrator => exact ledger_of_orchestratorMove delivering ledger move
  | user =>
    refine ⟨segments, window, ?_⟩
    cases move with
    | userSent =>
      exact
        { accounted := by
            simp only [ledger.accounted]
            simp
          counted := ledger.counted
          collected := ledger.collected
          emptied := ledger.emptied }
    | _ => exact ⟨ledger.accounted, ledger.counted, ledger.collected, ledger.emptied⟩
  | _ =>
    refine ⟨segments, window, ?_⟩
    cases move <;>
      exact ⟨ledger.accounted, ledger.counted, ledger.collected, ledger.emptied⟩

theorem Delivering.of_move (delivering : Delivering task) (allowed : task.drainedGuard action)
    (move : Move params task action next) :
    Delivering next where
  ledger := ledger_of_move delivering move
  quiet := by
    intro left
    cases before : task.phase.leftLoop with
    | true => exact (delivering.quiet before).of_move before move
    | false => exact quiet_of_leaving delivering allowed before move left
  streaming := streaming_of_move delivering allowed move

theorem Delivering.reserved (delivering : Delivering task) : Reserved task := by
  intro gone
  have left : task.phase.leftLoop = true := by
    cases phase : task.phase with
    | sendingBatch =>
      have streaming := delivering.streaming (by simp [phase]) (by simp [phase, Phase.halfClosed])
      simp [readerGone, phase, streaming] at gone
    | _ => simpa [readerGone, phase] using gone
  rw [(delivering.quiet left).idle]
  exact Nat.zero_le _

theorem Delivering.allDelivered
    (delivering : Delivering task) (closed : task.phase.halfClosed = true) :
    AllDelivered task := by
  obtain ⟨segments, window, ledger⟩ := delivering.ledger
  have idle := (delivering.quiet (Phase.leftLoop_of_halfClosed closed)).idle
  have unqueued : task.metrics = [] := by
    apply List.eq_nil_of_length_eq_zero
    simp only [committed] at idle
    omega
  have empty := ledger.emptied (Phase.windowless_of_halfClosed closed)
  have unoffered : task.phase.offered = [] := by
    cases phase : task.phase <;> first | rfl | simp [phase, Phase.halfClosed] at closed
  refine ⟨segments, ?_, ?_⟩
  · simpa [empty, unqueued] using ledger.accounted
  · simpa [unoffered] using ledger.counted

theorem drainedGuard_of_drainStep (allowed : drainStep params task action) :
    task.drainedGuard action := by
  cases action with
  | uploader action =>
    cases action with
    | fail => exact False.elim allowed
    | _ => exact True.intro
  | orchestrator action =>
    cases action with
    | takeCancelled => exact False.elim allowed
    | _ => exact True.intro
  | _ => exact True.intro

end Preservation

theorem delivering_of_reaches
    {params : RunParams} {plan : ExecutionPlan} {testRunId : String} {task : RunTask}
    (reached : Reaches (step params) drainedGuard (spawn params plan testRunId) task) :
    WellFormed task ∧ Delivering task := by
  apply reached.invariant (fun state => WellFormed state ∧ Delivering state)
  · intro state action next holds allowed taken
    have move := move_of_step taken
    exact ⟨holds.1.of_move move, holds.2.of_move allowed move⟩
  · exact ⟨wellFormed_spawn params plan testRunId, delivering_spawn params plan testRunId⟩

/-- While the cancelled branch is taken only with nothing queued or in flight, every
metric sent to the metric channel is counted in exactly one batch handed to an uploader
that accepts batches: this holds from the half-close on, and every stopped run gets
there. -/
theorem sent_metrics_delivered
    (params : RunParams) (plan : ExecutionPlan) (testRunId : String) (task : RunTask)
    (reached : Reaches (step params) drainedGuard (spawn params plan testRunId) task) :
    (task.phase.halfClosed = true → AllDelivered task) ∧ (Stopping task →
        ∃ finished,
          Reaches (step params) drainedGuard task finished ∧
            finished.phase = .finished ∧ AllDelivered finished) := by
  obtain ⟨wellFormed, delivering⟩ := delivering_of_reaches reached
  refine ⟨delivering.allDelivered, ?_⟩
  intro stopping
  obtain ⟨finished, drained, ended⟩ :
      ∃ finished,
        Reaches (step params) (drainStep params) task finished ∧ finished.phase = .finished :=
    finishes_of_stopping wellFormed delivering.reserved stopping
  have later : Reaches (step params) drainedGuard task finished :=
    drained.mono fun _ _ allowed => drainedGuard_of_drainStep allowed
  have finishedDelivering := (delivering_of_reaches (reached.trans later)).2
  exact ⟨finished, later, ended, finishedDelivering.allDelivered (by rw [ended]; rfl)⟩

def requestActions : List TaskAction :=
  [.orchestrator (.enter 1 0), .launcher (.buildEngine true), .launcher .spawnUser,
    .user 0 .start, .user 0 .check, .user 0 (.respond { latencyMicros := 1000 }), .user 0 .send]

theorem sent_metrics_delivered_sample :
    ∃ task,
      Reaches (step .sample) drainedGuard (spawn .sample .sample "run-1") task ∧
        task.phase.halfClosed = true ∧ task.sent.length = 1 ∧ AllDelivered task := by
  refine
    Reaches.exists_imp_of_executeChecked
      (fun task => task.phase.halfClosed = true ∧ task.sent.length = 1)
      (requestActions ++ [.orchestrator .receiveMetric, .cancel, .orchestrator .takeCancelled,
        .orchestrator (.flush 1000), .orchestrator .sendBatch])
      (by decide +kernel) ?_
  rintro task reached ⟨closed, one⟩
  exact ⟨closed, one, (sent_metrics_delivered .sample .sample "run-1" task reached).1 closed⟩

/-- A metric that is still queued when the cancelled branch is taken is counted in no
batch. -/
theorem sent_metric_lost_sample :
    ¬ ∀ task,
        Reaches (step .sample) uploadAccepts (spawn .sample .sample "run-1") task →
          task.phase.halfClosed = true → AllDelivered task := by
  refine
    Reaches.not_forall_of_executeChecked
      (fun task => task.phase.halfClosed = true ∧ task.sent.length = 1 ∧ task.handed = [])
      (requestActions ++ [.cancel, .orchestrator .takeCancelled, .orchestrator (.flush 1000)])
      (by decide +kernel) ?_
  rintro task _ ⟨closed, one, none⟩ delivered
  obtain ⟨segments, accounted, counted⟩ := delivered closed
  rw [none] at counted
  cases counted
  simp [accounted] at one

end RunTask

end Strobengine.Distributed
