import Strobengine.Distributed.RunTask

/-!
# Room in the metric channel after the collector stops reading

The collector keeps the metric receiver alive after it has left its loop, so a virtual user that
finishes an iteration then finds a channel that nobody drains. The run can only end if the channel
has room for every metric that is still to come.
-/

namespace Strobengine.Distributed

open Metrics Foundations

/-- The virtual user has passed its cancellation check and has not completed the send
of that iteration's metric. -/
def VirtualUser.inFlight (user : VirtualUser) : Bool :=
  match user.phase with
  | .iterating => true
  | .sending _ => true
  | _ => false

def Phase.sendsBatch : Phase → Bool
  | .sendingBatch _ => true
  | _ => false

open VirtualUser (inFlight)

namespace RunTask

def committed (task : RunTask) : Nat :=
  task.metrics.length + task.users.countP inFlight

/-- The collector will not read the metric channel again: it has left its loop, or it
is sending a batch to an upload that has ended. -/
def readerGone (task : RunTask) : Bool :=
  match task.phase with
  | .sendingBatch _ => decide (task.uploader ≠ .streaming)
  | phase => phase.leftLoop

/-- The orchestrator waits for its virtual users while one of them is blocked sending
to a full metric channel that no task will ever read again. -/
structure BlockedForever (params : RunParams) (task : RunTask) : Prop where
  waiting : task.phase = .joiningUsers
  blocked :
    ∃ (vu index : Nat) (metric : RequestMetric), task.users[vu]? = some ⟨index, .sending metric⟩
  full : metricChannelCapacity ≤ task.metrics.length
  unread : ∀ later, Reaches (step params) unguarded task later → later.phase ≠ .collecting

/-- The channel has room for all outstanding metrics whenever the collector stops
reading, and for each iteration begun after that. -/
def capacityGuard (params : RunParams) (task : RunTask) : TaskAction → Prop
  | .orchestrator .takeCancelled => task.committed ≤ metricChannelCapacity
  | .orchestrator (.tick now) =>
    task.uploader = .ended →
      task.collector.takeBatch params.hdr now ≠ none → task.committed ≤ metricChannelCapacity
  | .uploader .fail =>
    task.phase.sendsBatch = true → task.committed ≤ metricChannelCapacity
  | .user _ .check =>
    task.readerGone = true → task.cancelled = false → task.elapsed = false →
      task.committed < metricChannelCapacity
  | _ => True

instance (params : RunParams) (task : RunTask) (action : TaskAction) :
    Decidable (capacityGuard params task action) := by
  rcases action with _ | ⟨_, action⟩ | action | action | _ | _ <;> try cases action
  all_goals unfold capacityGuard; infer_instance

structure WellFormed (task : RunTask) : Prop where
  bounded : task.metrics.length ≤ metricChannelCapacity
  unstarted : task.phase = .spawned → task.launcher = .unspawned ∧ task.uploader = .unspawned
  started : task.phase ≠ .spawned → task.launcher ≠ .unspawned ∧ task.uploader ≠ .unspawned
  spawnBound : ∀ next, task.launcher = .spawning next → next ≤ task.plan.virtualUsers
  returnedUsers : task.launcher = .returned → ∀ user ∈ task.users, user.phase = .finished
  unbuiltUsers : task.launcher = .unspawned ∨ task.launcher = .building → task.users = []

theorem wellFormed_spawn (params : RunParams) (plan : ExecutionPlan) (testRunId : String) :
    WellFormed (spawn params plan testRunId) where
  bounded := Nat.zero_le _
  unstarted := fun _ => ⟨rfl, rfl⟩
  started := fun different => False.elim (different rfl)
  spawnBound := by
    intro next spawning
    cases spawning
  returnedUsers := by
    intro returned
    cases returned
  unbuiltUsers := fun _ => rfl

section Preservation

variable {params : RunParams} {task next : RunTask} {action : TaskAction}

private theorem bounded_of_move
    (wellFormed : WellFormed task) (move : Move params task action next) :
    next.metrics.length ≤ metricChannelCapacity := by
  have bounded := wellFormed.bounded
  cases move with
  | userSent =>
    simp only [List.length_append, List.length_singleton]
    omega
  | receiveMetric metric rest collecting queued =>
    rw [queued, List.length_cons] at bounded
    simp only
    omega
  | _ => exact bounded

private theorem phases_of_move
    (wellFormed : WellFormed task) (move : Move params task action next) :
    (next.phase = .spawned → next.launcher = .unspawned ∧ next.uploader = .unspawned) ∧
      (next.phase ≠ .spawned → next.launcher ≠ .unspawned ∧ next.uploader ≠ .unspawned) := by
  have unstarted := wellFormed.unstarted
  have started := wellFormed.started
  cases move <;> simp_all [setUser]

private theorem spawnBound_of_move
    (wellFormed : WellFormed task) (move : Move params task action next) :
    ∀ position, next.launcher = .spawning position → position ≤ next.plan.virtualUsers := by
  have spawnBound := wellFormed.spawnBound
  cases move with
  | buildSucceeded =>
    intro position same
    cases same
    exact Nat.zero_le _
  | spawnUser reached spawning more =>
    intro position same
    cases same
    exact more
  | buildFailed | dropSender | joinHandles | enter => intro position same; cases same
  | _ => exact spawnBound

private theorem userMove_spec {vu : Nat} {userAction : UserAction}
    (move : Move params task (.user vu userAction) next) :
    next.launcher = task.launcher ∧
      ∃ user, task.users[vu]? = some user ∧ user.phase ≠ .finished := by
  cases move with
  | _ => exact ⟨rfl, _, ‹_›, by simp⟩

private theorem unbuiltUsers_of_move
    (wellFormed : WellFormed task) (move : Move params task action next) :
    next.launcher = .unspawned ∨ next.launcher = .building → next.users = [] := by
  have unbuiltUsers := wellFormed.unbuiltUsers
  cases action with
  | user =>
    obtain ⟨launcher, user, found, _⟩ := userMove_spec move
    intro unbuilt
    rw [launcher] at unbuilt
    simp [unbuiltUsers unbuilt] at found
  | launcher =>
    cases move <;>
      · intro unbuilt
        rcases unbuilt with same | same <;> cases same
  | orchestrator =>
    cases move with
    | enter activeVus now spawned =>
      intro _
      exact unbuiltUsers (Or.inl (wellFormed.unstarted spawned).1)
    | _ => exact unbuiltUsers
  | _ => cases move <;> exact unbuiltUsers

private theorem returnedUsers_of_move
    (wellFormed : WellFormed task) (move : Move params task action next) :
    next.launcher = .returned → ∀ user ∈ next.users, user.phase = .finished := by
  have returnedUsers := wellFormed.returnedUsers
  cases action with
  | user =>
    obtain ⟨launcher, user, found, unfinished⟩ := userMove_spec move
    intro returned
    rw [launcher] at returned
    exact False.elim (unfinished (returnedUsers returned user (List.mem_of_getElem? found)))
  | launcher =>
    cases move with
    | buildFailed building =>
      intro _ user present
      have none : task.users = [] := wellFormed.unbuiltUsers (Or.inr building)
      simp [none] at present
    | joinHandles joining allFinished =>
      intro _
      exact allFinished
    | _ =>
      intro returned
      cases returned
  | orchestrator =>
    cases move with
    | enter =>
      intro returned
      cases returned
    | _ => exact returnedUsers
  | _ => cases move <;> exact returnedUsers

theorem WellFormed.of_move (wellFormed : WellFormed task) (move : Move params task action next) :
    WellFormed next where
  bounded := bounded_of_move wellFormed move
  unstarted := (phases_of_move wellFormed move).1
  started := (phases_of_move wellFormed move).2
  spawnBound := spawnBound_of_move wellFormed move
  returnedUsers := returnedUsers_of_move wellFormed move
  unbuiltUsers := unbuiltUsers_of_move wellFormed move

end Preservation

/-! ## The room is kept -/

/-- The channel has room for all outstanding metrics once the collector has stopped
reading. -/
def Reserved (task : RunTask) : Prop :=
  task.readerGone = true → task.committed ≤ metricChannelCapacity

section Room

variable {params : RunParams} {task next : RunTask} {action : TaskAction}

theorem committed_setUser {vu : Nat} {user : VirtualUser} (moved : VirtualUser)
    (found : task.users[vu]? = some user) :
    (task.setUser vu moved).committed + user.inFlight.toNat =
      task.committed + moved.inFlight.toNat := by
  have counted := countP_set inFlight moved found
  simp only [committed, setUser]
  omega

theorem length_lt_committed {vu : Nat} {user : VirtualUser}
    (found : task.users[vu]? = some user) (flying : user.inFlight = true) :
    task.metrics.length < task.committed := by
  have positive := countP_pos_of_getElem? found flying
  simp only [committed]
  omega

theorem committed_of_sendersDropped
    (empty : task.metrics = []) (dropped : task.sendersDropped = true) :
    task.committed = 0 := by
  have finished : ∀ user ∈ task.users, user.phase = .finished := by
    simp only [sendersDropped, Bool.and_eq_true, List.all_eq_true, decide_eq_true_eq] at dropped
    exact dropped.2
  have none : task.users.countP inFlight = 0 := by
    apply List.countP_eq_zero.mpr
    intro user present
    simp [inFlight, finished user present]
  simp [committed, empty, none]

private theorem reserved_of_userMove {vu : Nat} {userAction : UserAction} (reserved : Reserved task)
    (allowed : capacityGuard params task (.user vu userAction))
    (move : Move params task (.user vu userAction) next) :
    Reserved next := by
  intro gone
  have room : next.phase = task.phase → next.uploader = task.uploader →
      task.committed ≤ metricChannelCapacity := by
    intro phase uploader
    apply reserved
    simpa only [readerGone, phase, uploader] using gone
  cases move with
  | userStart _ index found =>
    have moved := committed_setUser ⟨index, .checking⟩ found
    have before := room rfl rfl
    simp only [inFlight, Bool.toNat_false] at moved
    omega
  | userStop _ index found =>
    have moved := committed_setUser ⟨index, .closing⟩ found
    have before := room rfl rfl
    simp only [inFlight, Bool.toNat_false] at moved
    omega
  | userBegin _ index found notCancelled notElapsed =>
    have moved := committed_setUser ⟨(index + 1) % 2 ^ 64, .iterating⟩ found
    have before := allowed gone notCancelled notElapsed
    simp only [inFlight, Bool.toNat_false, Bool.toNat_true] at moved
    simp only [committed, setUser] at moved before ⊢
    omega
  | userRespond _ index metric found =>
    have moved := committed_setUser ⟨index, .sending metric⟩ found
    have before := room rfl rfl
    simp only [inFlight, Bool.toNat_true] at moved
    omega
  | userPanic _ index found =>
    have moved := committed_setUser ⟨index, .finished⟩ found
    have before := room rfl rfl
    simp only [inFlight, Bool.toNat_true, Bool.toNat_false] at moved
    omega
  | userRefused _ index metric found =>
    have moved := committed_setUser ⟨index, .closing⟩ found
    have before := room rfl rfl
    simp only [inFlight, Bool.toNat_true, Bool.toNat_false] at moved
    omega
  | userSent _ index metric found =>
    have moved := committed_setUser ⟨index, .checking⟩ found
    have before := room rfl rfl
    simp only [inFlight, Bool.toNat_true, Bool.toNat_false] at moved
    simp only [committed, setUser, List.length_append, List.length_singleton] at moved before ⊢
    omega
  | userClose _ index found =>
    have moved := committed_setUser ⟨index, .finished⟩ found
    have before := room rfl rfl
    simp only [inFlight, Bool.toNat_false] at moved
    omega

private theorem reserved_of_orchestratorMove {orchestratorAction : OrchestratorAction}
    (wellFormed : WellFormed task) (reserved : Reserved task)
    (allowed : capacityGuard params task (.orchestrator orchestratorAction))
    (move : Move params task (.orchestrator orchestratorAction) next) :
    Reserved next := by
  intro gone
  cases move with
  | enter | batchAccepted => cases gone
  | takeCancelled => exact allowed
  | receiveMetric metric rest collecting => simp [readerGone, collecting, Phase.leftLoop] at gone
  | channelClosed collecting empty dropped =>
    have nothing := committed_of_sendersDropped empty dropped
    simp only [committed] at nothing ⊢
    omega
  | tickEmpty => exact reserved gone
  | tickBatch now batch collector collecting taken =>
    have notStreaming : task.uploader ≠ .streaming := by
      simpa [readerGone] using gone
    have begun : task.phase ≠ .spawned := by simp [collecting]
    have ended : task.uploader = .ended := by
      cases uploader : task.uploader with
      | unspawned => exact False.elim ((wellFormed.started begun).2 uploader)
      | streaming => exact False.elim (notStreaming uploader)
      | ended => rfl
    exact allowed ended (by simp [taken])
  | batchRefused batch sending ended => exact reserved (by simp [readerGone, sending, ended])
  | _ => exact reserved (by simp [readerGone, *, Phase.leftLoop])

private theorem reserved_of_uploaderMove {uploaderAction : UploaderAction}
    (reserved : Reserved task) (allowed : capacityGuard params task (.uploader uploaderAction))
    (move : Move params task (.uploader uploaderAction) next) :
    Reserved next := by
  intro gone
  cases move with
  | upload => exact reserved gone
  | acknowledge streaming empty halfClosed =>
    apply reserved
    revert gone halfClosed
    cases phase : task.phase <;>
      simp [readerGone, phase, Phase.leftLoop, Phase.halfClosed]
  | uploadFail =>
    cases phase : task.phase with
    | sendingBatch => exact allowed (by rw [phase]; rfl)
    | _ => exact reserved (by simpa [readerGone, phase] using gone)

theorem reserved_of_move (wellFormed : WellFormed task) (reserved : Reserved task)
    (allowed : capacityGuard params task action) (move : Move params task action next) :
    Reserved next := by
  cases action with
  | user => exact reserved_of_userMove reserved allowed move
  | orchestrator => exact reserved_of_orchestratorMove wellFormed reserved allowed move
  | uploader => exact reserved_of_uploaderMove reserved allowed move
  | launcher =>
    intro gone
    cases move with
    | spawnUser =>
      have before := reserved gone
      simpa [committed, inFlight] using before
    | _ => exact reserved gone
  | cancel | elapse =>
    cases move
    exact reserved

theorem not_blockedForever (reserved : Reserved task) : ¬ BlockedForever params task := by
  intro stuck
  obtain ⟨vu, index, metric, found⟩ := stuck.blocked
  have room : task.committed ≤ metricChannelCapacity :=
    reserved (by simp [readerGone, stuck.waiting, Phase.leftLoop])
  have outstanding := length_lt_committed found rfl
  have full := stuck.full
  omega

end Room

theorem reserved_of_reaches
    {params : RunParams} {plan : ExecutionPlan} {testRunId : String} {task : RunTask}
    (reached : Reaches (step params) (capacityGuard params) (spawn params plan testRunId) task) :
    WellFormed task ∧ Reserved task := by
  apply reached.invariant (fun state => WellFormed state ∧ Reserved state)
  · intro state action next holds allowed taken
    have move := move_of_step taken
    exact ⟨holds.1.of_move move, reserved_of_move holds.1 holds.2 allowed move⟩
  · refine ⟨wellFormed_spawn params plan testRunId, ?_⟩
    intro gone
    cases gone

end RunTask

end Strobengine.Distributed
