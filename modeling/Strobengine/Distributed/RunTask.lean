import Strobengine.Distributed.Executor
import Strobengine.Distributed.Telemetry
import Strobengine.Foundations.Execution
import Strobengine.Foundations.Population

/-!
# The run task of a worker

`run_orchestrator` and the tasks it spawns for one run: the launcher and the virtual users, which
send metrics to a bounded channel; the collector loop, which reads them and sends batches to a
second one; and the uploader. Every await point is a phase. Where the scheduler, the clock, the
target or the network decides, the action carries the decision.
-/

namespace Strobengine.Distributed

open Metrics Foundations
open Proto (MetricBatch)

def metricChannelCapacity : Nat := 8192

def batchChannelCapacity : Nat := 64

structure RunParams where
  workerId : String
  maxVus : Nat
  windowMs : Nat
  requestTimeoutMs : Nat
  http : HttpRules
  hdr : HdrStatistics

/-- A worker without a ceiling on virtual users, linked against parsers that accept
every text and a histogram whose statistics are all zero. -/
def RunParams.sample : RunParams :=
  { workerId := "worker-1"
    maxVus := 0
    windowMs := 1000
    requestTimeoutMs := 30000
    http := .accepting
    hdr := .sample }

/-- A plan with one target and one virtual user that runs until it is stopped. -/
def ExecutionPlan.sample : ExecutionPlan :=
  { targets := ["http://target/"]
    method := "GET"
    body := none
    headers := []
    timeoutMs := 30000
    virtualUsers := 1
    duration := none
    targetsNonempty := by decide
    virtualUsersPositive := by decide }

def ExecutionPlan.timed : ExecutionPlan :=
  { ExecutionPlan.sample with
    virtualUsers := 2
    duration := some 1000000000
    virtualUsersPositive := by decide }

inductive UserPhase where
  | starting
  | checking
  | iterating
  | sending (metric : RequestMetric)
  | closing
  | finished
  deriving DecidableEq, Repr

structure VirtualUser where
  index : Nat
  phase : UserPhase
  deriving DecidableEq, Repr

inductive Launcher where
  | unspawned
  | building
  | spawning (next : Nat)
  | joining
  | returned
  deriving DecidableEq, Repr

inductive Uploader where
  | unspawned
  | streaming
  | ended
  deriving DecidableEq, Repr

/-- Where `run_orchestrator` stands. The batch sender is dropped on entry to
`joiningUsers`, the metric receiver on entry to `finished`. -/
inductive Phase where
  | spawned
  | collecting
  | sendingBatch (batch : MetricBatch Nat)
  | flushing
  | sendingFinal (batch : MetricBatch Nat)
  | joiningUsers
  | joiningTelemetry
  | resettingVus
  | settingReady
  | finished
  deriving DecidableEq, Repr

/-- The state of one run task. The last four fields are history: the targets of the
iterations begun, the metrics accepted by the metric channel, the batches accepted by
the batch channel, and the batches put on the wire. -/
structure RunTask where
  testRunId : String
  plan : ExecutionPlan
  cancelled : Bool
  elapsed : Bool
  phase : Phase
  collector : WindowedCollector
  launcher : Launcher
  users : List VirtualUser
  metrics : List RequestMetric
  batches : List (MetricBatch Nat)
  uploader : Uploader
  iterations : List String
  sent : List RequestMetric
  handed : List (MetricBatch Nat)
  uploaded : List (MetricBatch Nat)

inductive LauncherAction where
  | buildEngine (built : Bool)
  | spawnUser
  | dropSender
  | joinHandles
  deriving DecidableEq, Repr

inductive UserAction where
  | start
  | check
  | respond (metric : RequestMetric)
  | panic
  | send
  | close
  deriving DecidableEq, Repr

/-- Steps of `run_orchestrator`; `now` is the wall clock in Unix milliseconds. -/
inductive OrchestratorAction where
  | enter (activeVus : Nat) (now : Int)
  | takeCancelled
  | receiveMetric
  | tick (now : Int)
  | sendBatch
  | flush (now : Int)
  | joinUsers
  | joinTelemetry
  | resetVus
  | setReady
  deriving DecidableEq, Repr

/-- Steps of the telemetry upload. `fail` is an end before the half-close: an error
status, or an early reply. -/
inductive UploaderAction where
  | upload
  | acknowledge
  | fail
  deriving DecidableEq, Repr

/-- Steps of the whole run task. `cancel` is the cancellation of its token by a STOP,
an ABORT or the end of the session, `elapse` the moment the plan's duration is over. -/
inductive TaskAction where
  | launcher (action : LauncherAction)
  | user (vu : Nat) (action : UserAction)
  | orchestrator (action : OrchestratorAction)
  | uploader (action : UploaderAction)
  | cancel
  | elapse
  deriving DecidableEq, Repr

def Phase.halfClosed : Phase → Bool
  | .joiningUsers => true
  | .joiningTelemetry => true
  | .resettingVus => true
  | .settingReady => true
  | .finished => true
  | _ => false

def Phase.leftLoop : Phase → Bool
  | .spawned => false
  | .collecting => false
  | .sendingBatch _ => false
  | _ => true

namespace RunTask

def spawn (params : RunParams) (plan : ExecutionPlan) (testRunId : String) : RunTask :=
  { testRunId
    plan
    cancelled := false
    elapsed := false
    phase := .spawned
    collector := WindowedCollector.new params.workerId testRunId params.windowMs 0
    launcher := .unspawned
    users := []
    metrics := []
    batches := []
    uploader := .unspawned
    iterations := []
    sent := []
    handed := []
    uploaded := [] }

def setUser (task : RunTask) (vu : Nat) (user : VirtualUser) : RunTask :=
  { task with users := task.users.set vu user }

def sendersDropped (task : RunTask) : Bool :=
  (task.launcher = .joining || task.launcher = .returned) &&
    task.users.all (fun user => decide (user.phase = .finished))

def stepLauncher (task : RunTask) : LauncherAction → Option RunTask
  | .buildEngine built =>
    match task.launcher with
    | .building =>
      if built then
        some { task with launcher := .spawning 0 }
      else
        some { task with launcher := .returned }
    | _ => none
  | .spawnUser =>
    match task.launcher with
    | .spawning next =>
      if next < task.plan.virtualUsers then
        some
          { task with
            launcher := .spawning (next + 1)
            users := task.users ++ [{ index := next, phase := .starting }] }
      else
        none
    | _ => none
  | .dropSender =>
    match task.launcher with
    | .spawning next =>
      if next < task.plan.virtualUsers then
        none
      else
        some { task with launcher := .joining }
    | _ => none
  | .joinHandles =>
    match task.launcher with
    | .joining =>
      if task.users.all (fun user => decide (user.phase = .finished)) then
        some { task with launcher := .returned }
      else
        none
    | _ => none

/-- One virtual user. `send` blocks while the metric channel is full and fails once
its receiver is dropped. -/
def stepUser (task : RunTask) (vu : Nat) (action : UserAction) : Option RunTask :=
  match task.users[vu]? with
  | none => none
  | some user =>
    match action, user.phase with
    | .start, .starting => some (task.setUser vu { user with phase := .checking })
    | .check, .checking =>
      if task.cancelled || task.elapsed then
        some (task.setUser vu { user with phase := .closing })
      else
        some
          { task.setUser vu
              { index := (user.index + 1) % 2 ^ 64, phase := .iterating } with
            iterations := task.iterations ++ [task.plan.target user.index] }
    | .respond metric, .iterating => some (task.setUser vu { user with phase := .sending metric })
    | .panic, .iterating => some (task.setUser vu { user with phase := .finished })
    | .send, .sending metric =>
      if task.phase = .finished then
        some (task.setUser vu { user with phase := .closing })
      else if task.metrics.length < metricChannelCapacity then
        some
          { task.setUser vu { user with phase := .checking } with
            metrics := task.metrics ++ [metric]
            sent := task.sent ++ [metric] }
      else
        none
    | .close, .closing => some (task.setUser vu { user with phase := .finished })
    | _, _ => none

def offerBatch (task : RunTask) (batch : MetricBatch Nat) (accepted refused : Phase) :
    Option RunTask :=
  match task.uploader with
  | .streaming =>
    if task.batches.length < batchChannelCapacity then
      some
        { task with
          phase := accepted
          batches := task.batches ++ [batch]
          handed := task.handed ++ [batch] }
    else
      none
  | _ => some { task with phase := refused }

def stepOrchestrator (params : RunParams) (task : RunTask) : OrchestratorAction → Option RunTask
  | .enter activeVus now =>
    match task.phase with
    | .spawned =>
      some
        { task with
          phase := .collecting
          launcher := .building
          uploader := .streaming
          collector :=
            (WindowedCollector.new params.workerId task.testRunId
              params.windowMs now).setActiveVus activeVus }
    | _ => none
  | .takeCancelled =>
    match task.phase with
    | .collecting => if task.cancelled then some { task with phase := .flushing } else none
    | _ => none
  | .receiveMetric =>
    match task.phase, task.metrics with
    | .collecting, metric :: rest =>
      some
        { task with
          metrics := rest
          collector := task.collector.record metric }
    | .collecting, [] =>
      if task.sendersDropped then some { task with phase := .flushing } else none
    | _, _ => none
  | .tick now =>
    match task.phase with
    | .collecting =>
      match task.collector.takeBatch params.hdr now with
      | none => some task
      | some (batch, collector) =>
        some { task with phase := .sendingBatch batch, collector }
    | _ => none
  | .sendBatch =>
    match task.phase with
    | .sendingBatch batch => task.offerBatch batch .collecting .flushing
    | .sendingFinal batch => task.offerBatch batch .joiningUsers .joiningUsers
    | _ => none
  | .flush now =>
    match task.phase with
    | .flushing =>
      match task.collector.takeBatch params.hdr now with
      | none => some { task with phase := .joiningUsers }
      | some (batch, collector) =>
        some { task with phase := .sendingFinal batch, collector }
    | _ => none
  | .joinUsers =>
    match task.phase, task.launcher with
    | .joiningUsers, .returned => some { task with phase := .joiningTelemetry }
    | _, _ => none
  | .joinTelemetry =>
    match task.phase, task.uploader with
    | .joiningTelemetry, .ended => some { task with phase := .resettingVus }
    | _, _ => none
  | .resetVus =>
    match task.phase with
    | .resettingVus => some { task with phase := .settingReady }
    | _ => none
  | .setReady =>
    match task.phase with
    | .settingReady => some { task with phase := .finished }
    | _ => none

def stepUploader (task : RunTask) : UploaderAction → Option RunTask
  | .upload =>
    match task.uploader, task.batches with
    | .streaming, batch :: rest =>
      some { task with batches := rest, uploaded := task.uploaded ++ [batch] }
    | _, _ => none
  | .acknowledge =>
    match task.uploader, task.batches with
    | .streaming, [] =>
      if task.phase.halfClosed then some { task with uploader := .ended } else none
    | _, _ => none
  | .fail =>
    match task.uploader with
    | .streaming => some { task with uploader := .ended, batches := [] }
    | _ => none

def step (params : RunParams) (task : RunTask) : TaskAction → Option RunTask
  | .launcher action => task.stepLauncher action
  | .user vu action => task.stepUser vu action
  | .orchestrator action => task.stepOrchestrator params action
  | .uploader action => task.stepUploader action
  | .cancel => some { task with cancelled := true }
  | .elapse => if task.plan.duration.isSome then some { task with elapsed := true } else none

/-! ## What one step can do -/

/-- The effects of all enabled steps, one constructor per branch of the code. -/
inductive Move (params : RunParams) (task : RunTask) : TaskAction → RunTask → Prop where
  | buildSucceeded (building : task.launcher = .building) :
      Move params task (.launcher (.buildEngine true)) { task with launcher := .spawning 0 }
  | buildFailed (building : task.launcher = .building) :
      Move params task (.launcher (.buildEngine false)) { task with launcher := .returned }
  | spawnUser (next : Nat) (spawning : task.launcher = .spawning next)
      (more : next < task.plan.virtualUsers) :
      Move params task (.launcher .spawnUser)
        { task with
          launcher := .spawning (next + 1)
          users := task.users ++ [{ index := next, phase := .starting }] }
  | dropSender (next : Nat) (spawning : task.launcher = .spawning next)
      (complete : ¬ next < task.plan.virtualUsers) :
      Move params task (.launcher .dropSender) { task with launcher := .joining }
  | joinHandles (joining : task.launcher = .joining)
      (allFinished : ∀ user ∈ task.users, user.phase = .finished) :
      Move params task (.launcher .joinHandles) { task with launcher := .returned }
  | userStart (vu index : Nat) (found : task.users[vu]? = some ⟨index, .starting⟩) :
      Move params task (.user vu .start) (task.setUser vu ⟨index, .checking⟩)
  | userStop (vu index : Nat) (found : task.users[vu]? = some ⟨index, .checking⟩)
      (stopped : task.cancelled = true ∨ task.elapsed = true) :
      Move params task (.user vu .check) (task.setUser vu ⟨index, .closing⟩)
  | userBegin (vu index : Nat) (found : task.users[vu]? = some ⟨index, .checking⟩)
      (notCancelled : task.cancelled = false) (notElapsed : task.elapsed = false) :
      Move params task (.user vu .check)
        { task.setUser vu ⟨(index + 1) % 2 ^ 64, .iterating⟩ with
          iterations := task.iterations ++ [task.plan.target index] }
  | userRespond (vu index : Nat) (metric : RequestMetric)
      (found : task.users[vu]? = some ⟨index, .iterating⟩) :
      Move params task (.user vu (.respond metric)) (task.setUser vu ⟨index, .sending metric⟩)
  | userPanic (vu index : Nat) (found : task.users[vu]? = some ⟨index, .iterating⟩) :
      Move params task (.user vu .panic) (task.setUser vu ⟨index, .finished⟩)
  | userRefused (vu index : Nat) (metric : RequestMetric)
      (found : task.users[vu]? = some ⟨index, .sending metric⟩)
      (receiverDropped : task.phase = .finished) :
      Move params task (.user vu .send) (task.setUser vu ⟨index, .closing⟩)
  | userSent (vu index : Nat) (metric : RequestMetric)
      (found : task.users[vu]? = some ⟨index, .sending metric⟩)
      (receiverAlive : task.phase ≠ .finished)
      (space : task.metrics.length < metricChannelCapacity) :
      Move params task (.user vu .send)
        { task.setUser vu ⟨index, .checking⟩ with
          metrics := task.metrics ++ [metric]
          sent := task.sent ++ [metric] }
  | userClose (vu index : Nat) (found : task.users[vu]? = some ⟨index, .closing⟩) :
      Move params task (.user vu .close) (task.setUser vu ⟨index, .finished⟩)
  | enter (activeVus : Nat) (now : Int) (spawned : task.phase = .spawned) :
      Move params task (.orchestrator (.enter activeVus now))
        { task with
          phase := .collecting
          launcher := .building
          uploader := .streaming
          collector :=
            (WindowedCollector.new params.workerId task.testRunId
              params.windowMs now).setActiveVus activeVus }
  | takeCancelled (collecting : task.phase = .collecting) (cancelled : task.cancelled = true) :
      Move params task (.orchestrator .takeCancelled) { task with phase := .flushing }
  | receiveMetric (metric : RequestMetric) (rest : List RequestMetric)
      (collecting : task.phase = .collecting) (queued : task.metrics = metric :: rest) :
      Move params task (.orchestrator .receiveMetric)
        { task with metrics := rest, collector := task.collector.record metric }
  | channelClosed (collecting : task.phase = .collecting) (empty : task.metrics = [])
      (dropped : task.sendersDropped = true) :
      Move params task (.orchestrator .receiveMetric) { task with phase := .flushing }
  | tickEmpty (now : Int) (collecting : task.phase = .collecting)
      (empty : task.collector.takeBatch params.hdr now = none) :
      Move params task (.orchestrator (.tick now)) task
  | tickBatch (now : Int) (batch : MetricBatch Nat) (collector : WindowedCollector)
      (collecting : task.phase = .collecting)
      (taken : task.collector.takeBatch params.hdr now = some (batch, collector)) :
      Move params task (.orchestrator (.tick now))
        { task with phase := .sendingBatch batch, collector }
  | batchAccepted (batch : MetricBatch Nat) (sending : task.phase = .sendingBatch batch)
      (streaming : task.uploader = .streaming)
      (space : task.batches.length < batchChannelCapacity) :
      Move params task (.orchestrator .sendBatch)
        { task with
          phase := .collecting
          batches := task.batches ++ [batch]
          handed := task.handed ++ [batch] }
  | batchRefused (batch : MetricBatch Nat) (sending : task.phase = .sendingBatch batch)
      (ended : task.uploader ≠ .streaming) :
      Move params task (.orchestrator .sendBatch) { task with phase := .flushing }
  | finalAccepted (batch : MetricBatch Nat) (sending : task.phase = .sendingFinal batch)
      (streaming : task.uploader = .streaming)
      (space : task.batches.length < batchChannelCapacity) :
      Move params task (.orchestrator .sendBatch)
        { task with
          phase := .joiningUsers
          batches := task.batches ++ [batch]
          handed := task.handed ++ [batch] }
  | finalRefused (batch : MetricBatch Nat) (sending : task.phase = .sendingFinal batch)
      (ended : task.uploader ≠ .streaming) :
      Move params task (.orchestrator .sendBatch) { task with phase := .joiningUsers }
  | flushEmpty (now : Int) (flushing : task.phase = .flushing)
      (empty : task.collector.takeBatch params.hdr now = none) :
      Move params task (.orchestrator (.flush now)) { task with phase := .joiningUsers }
  | flushBatch (now : Int) (batch : MetricBatch Nat) (collector : WindowedCollector)
      (flushing : task.phase = .flushing)
      (taken : task.collector.takeBatch params.hdr now = some (batch, collector)) :
      Move params task (.orchestrator (.flush now))
        { task with phase := .sendingFinal batch, collector }
  | joinUsers (joining : task.phase = .joiningUsers) (returned : task.launcher = .returned) :
      Move params task (.orchestrator .joinUsers) { task with phase := .joiningTelemetry }
  | joinTelemetry (joining : task.phase = .joiningTelemetry) (ended : task.uploader = .ended) :
      Move params task (.orchestrator .joinTelemetry) { task with phase := .resettingVus }
  | resetVus (resetting : task.phase = .resettingVus) :
      Move params task (.orchestrator .resetVus) { task with phase := .settingReady }
  | setReady (setting : task.phase = .settingReady) :
      Move params task (.orchestrator .setReady) { task with phase := .finished }
  | upload (batch : MetricBatch Nat) (rest : List (MetricBatch Nat))
      (streaming : task.uploader = .streaming) (queued : task.batches = batch :: rest) :
      Move params task (.uploader .upload)
        { task with batches := rest, uploaded := task.uploaded ++ [batch] }
  | acknowledge (streaming : task.uploader = .streaming) (empty : task.batches = [])
      (halfClosed : task.phase.halfClosed = true) :
      Move params task (.uploader .acknowledge) { task with uploader := .ended }
  | uploadFail (streaming : task.uploader = .streaming) :
      Move params task (.uploader .fail) { task with uploader := .ended, batches := [] }
  | cancel : Move params task .cancel { task with cancelled := true }
  | elapse (limited : task.plan.duration.isSome = true) :
      Move params task .elapse { task with elapsed := true }

section Inversion

variable {params : RunParams} {task next : RunTask}

private theorem move_of_stepLauncher {action : LauncherAction}
    (taken : task.stepLauncher action = some next) :
    Move params task (.launcher action) next := by
  cases action with
  | buildEngine built =>
    simp only [stepLauncher] at taken
    split at taken
    · rename_i building
      cases built with
      | true =>
        cases taken
        exact .buildSucceeded building
      | false =>
        cases taken
        exact .buildFailed building
    · cases taken
  | spawnUser =>
    simp only [stepLauncher] at taken
    split at taken
    · rename_i position spawning
      split at taken
      · rename_i more
        cases taken
        exact .spawnUser position spawning more
      · cases taken
    · cases taken
  | dropSender =>
    simp only [stepLauncher] at taken
    split at taken
    · rename_i position spawning
      split at taken
      · cases taken
      · rename_i complete
        cases taken
        exact .dropSender position spawning complete
    · cases taken
  | joinHandles =>
    simp only [stepLauncher] at taken
    split at taken
    · rename_i joining
      split at taken
      · rename_i allFinished
        cases taken
        exact .joinHandles joining (by simpa using allFinished)
      · cases taken
    · cases taken

private theorem move_of_stepUser {vu : Nat} {action : UserAction}
    (taken : task.stepUser vu action = some next) :
    Move params task (.user vu action) next := by
  unfold stepUser at taken
  cases found : task.users[vu]? with
  | none =>
    rw [found] at taken
    cases taken
  | some user =>
    obtain ⟨index, phase⟩ := user
    rw [found] at taken
    cases action <;> cases phase <;> simp only [reduceCtorEq] at taken
    case start.starting =>
        cases taken
        exact .userStart vu index found
    case check.checking =>
        split at taken
        · rename_i stopped
          cases taken
          exact .userStop vu index found (by simpa using stopped)
        · rename_i running
          cases taken
          simp only [Bool.or_eq_true, not_or, Bool.not_eq_true] at running
          exact .userBegin vu index found running.1 running.2
    case respond.iterating metric =>
        cases taken
        exact .userRespond vu index metric found
    case panic.iterating =>
        cases taken
        exact .userPanic vu index found
    case send.sending metric =>
        split at taken
        · rename_i receiverDropped
          cases taken
          exact .userRefused vu index metric found receiverDropped
        · rename_i receiverAlive
          split at taken
          · rename_i space
            cases taken
            exact .userSent vu index metric found receiverAlive space
          · cases taken
    case close.closing =>
        cases taken
        exact .userClose vu index found

private theorem offerBatch_eq_some {batch : MetricBatch Nat} {accepted refused : Phase}
    (taken : task.offerBatch batch accepted refused = some next) :
    (task.uploader = .streaming ∧ task.batches.length < batchChannelCapacity ∧
        next =
          { task with
            phase := accepted
            batches := task.batches ++ [batch]
            handed := task.handed ++ [batch] }) ∨
      (task.uploader ≠ .streaming ∧ next = { task with phase := refused }) := by
  unfold offerBatch at taken
  split at taken
  · rename_i streaming
    split at taken
    · rename_i space
      cases taken
      exact Or.inl ⟨streaming, space, rfl⟩
    · cases taken
  · rename_i ended
    cases taken
    exact Or.inr ⟨fun streaming => ended streaming, rfl⟩

private theorem move_of_stepOrchestrator {action : OrchestratorAction}
    (taken : task.stepOrchestrator params action = some next) :
    Move params task (.orchestrator action) next := by
  cases action with
  | enter activeVus now =>
    simp only [stepOrchestrator] at taken
    split at taken
    · rename_i spawned
      cases taken
      exact .enter activeVus now spawned
    · cases taken
  | takeCancelled =>
    simp only [stepOrchestrator] at taken
    split at taken
    · rename_i collecting
      split at taken
      · rename_i cancelled
        cases taken
        exact .takeCancelled collecting cancelled
      · cases taken
    · cases taken
  | receiveMetric =>
    simp only [stepOrchestrator] at taken
    split at taken
    · rename_i metric rest collecting queued
      cases taken
      exact .receiveMetric metric rest collecting queued
    · rename_i collecting empty
      split at taken
      · rename_i dropped
        cases taken
        exact .channelClosed collecting empty dropped
      · cases taken
    · cases taken
  | tick now =>
    simp only [stepOrchestrator] at taken
    split at taken
    · rename_i collecting
      split at taken
      · rename_i empty
        cases taken
        exact .tickEmpty now collecting empty
      · rename_i batch collector batchTaken
        cases taken
        exact .tickBatch now batch collector collecting batchTaken
    · cases taken
  | sendBatch =>
    simp only [stepOrchestrator] at taken
    split at taken
    · rename_i batch sending
      rcases offerBatch_eq_some taken with ⟨streaming, space, rfl⟩ | ⟨ended, rfl⟩
      · exact .batchAccepted batch sending streaming space
      · exact .batchRefused batch sending ended
    · rename_i batch sending
      rcases offerBatch_eq_some taken with ⟨streaming, space, rfl⟩ | ⟨ended, rfl⟩
      · exact .finalAccepted batch sending streaming space
      · exact .finalRefused batch sending ended
    · cases taken
  | flush now =>
    simp only [stepOrchestrator] at taken
    split at taken
    · rename_i flushing
      split at taken
      · rename_i empty
        cases taken
        exact .flushEmpty now flushing empty
      · rename_i batch collector batchTaken
        cases taken
        exact .flushBatch now batch collector flushing batchTaken
    · cases taken
  | joinUsers =>
    simp only [stepOrchestrator] at taken
    split at taken
    · rename_i joining returned
      cases taken
      exact .joinUsers joining returned
    · cases taken
  | joinTelemetry =>
    simp only [stepOrchestrator] at taken
    split at taken
    · rename_i joining ended
      cases taken
      exact .joinTelemetry joining ended
    · cases taken
  | resetVus =>
    simp only [stepOrchestrator] at taken
    split at taken
    · rename_i resetting
      cases taken
      exact .resetVus resetting
    · cases taken
  | setReady =>
    simp only [stepOrchestrator] at taken
    split at taken
    · rename_i setting
      cases taken
      exact .setReady setting
    · cases taken

private theorem move_of_stepUploader {action : UploaderAction}
    (taken : task.stepUploader action = some next) :
    Move params task (.uploader action) next := by
  cases action with
  | upload =>
    simp only [stepUploader] at taken
    split at taken
    · rename_i batch rest streaming queued
      cases taken
      exact .upload batch rest streaming queued
    · cases taken
  | acknowledge =>
    simp only [stepUploader] at taken
    split at taken
    · rename_i streaming empty
      split at taken
      · rename_i halfClosed
        cases taken
        exact .acknowledge streaming empty halfClosed
      · cases taken
    · cases taken
  | fail =>
    simp only [stepUploader] at taken
    split at taken
    · rename_i streaming
      cases taken
      exact .uploadFail streaming
    · cases taken

theorem move_of_step {action : TaskAction} (taken : task.step params action = some next) :
    Move params task action next := by
  cases action with
  | launcher => exact move_of_stepLauncher taken
  | user => exact move_of_stepUser taken
  | orchestrator => exact move_of_stepOrchestrator taken
  | uploader => exact move_of_stepUploader taken
  | cancel =>
    cases taken
    exact .cancel
  | elapse =>
    simp only [step] at taken
    split at taken
    · rename_i limited
      cases taken
      exact .elapse limited
    · cases taken

theorem finished_iff_of_move {action : TaskAction} (move : Move params task action next)
    (notReady : action ≠ .orchestrator .setReady) :
    next.phase = .finished ↔ task.phase = .finished := by
  cases move with
  | setReady => exact False.elim (notReady rfl)
  | enter | takeCancelled | channelClosed | tickBatch | batchAccepted | batchRefused
  | finalAccepted | finalRefused | flushEmpty | flushBatch | joinUsers | joinTelemetry | resetVus =>
    simp [*]
  | _ => exact Iff.rfl

theorem testRunId_of_move {action : TaskAction} (move : Move params task action next) :
    next.testRunId = task.testRunId ∧ (next.cancelled = false → task.cancelled = false) := by
  cases move with
  | cancel => exact ⟨rfl, fun uncancelled => by cases uncancelled⟩
  | _ => exact ⟨rfl, id⟩

end Inversion

end RunTask

end Strobengine.Distributed
