import Strobengine.Distributed.RunTask.Capacity
import Strobengine.Distributed.Worker.Invariant

/-!
# After the end of a run

`run_orchestrator` joins its virtual users and then its upload before it reports READY.
-/

namespace Strobengine.Distributed

open Foundations

def Phase.joinedUsers : Phase → Bool
  | joiningTelemetry | resettingVus | settingReady | finished => true
  | _ => false

def Phase.isOver : Phase → Bool
  | resettingVus | settingReady | finished => true
  | _ => false

namespace RunTask

variable {params : RunParams} {task next : RunTask} {action : TaskAction}

structure Joined (task : RunTask) : Prop where
  users : task.phase.joinedUsers = true → task.launcher = .returned
  upload : task.phase.isOver = true → task.uploader = .ended

theorem Joined.of_move (joined : task.Joined) (move : Move params task action next) :
    next.Joined := by
  obtain ⟨users, upload⟩ := joined
  cases move <;> constructor <;> simp_all [Phase.joinedUsers, Phase.isOver, setUser]

/-- Nothing of the run is left that could do anything. -/
structure Ended (task : RunTask) : Prop where
  isOver : task.phase.isOver = true
  launcher : task.launcher = .returned
  users : ∀ user ∈ task.users, user.phase = .finished
  uploader : task.uploader = .ended

/-- No target was loaded, no metric sent and no batch uploaded in between. -/
structure Rests (task after : RunTask) : Prop where
  iterations : after.iterations = task.iterations
  sent : after.sent = task.sent
  uploaded : after.uploaded = task.uploaded

theorem Ended.of_move (ended : task.Ended) (move : Move params task action next) :
    next.Ended ∧ task.Rests next := by
  obtain ⟨isOver, launcher, users, uploader⟩ := ended
  have unmoved {vu : Nat} {user : VirtualUser} (found : task.users[vu]? = some user) :
      user.phase = .finished :=
    users user (List.mem_of_getElem? found)
  cases move with
  | userStart _ _ found | userStop _ _ found | userBegin _ _ found | userRespond _ _ _ found
  | userPanic _ _ found | userRefused _ _ _ found | userSent _ _ _ found | userClose _ _ found =>
    cases unmoved found
  | resetVus | setReady => exact ⟨⟨rfl, launcher, users, uploader⟩, rfl, rfl, rfl⟩
  | cancel | elapse => exact ⟨⟨isOver, launcher, users, uploader⟩, rfl, rfl, rfl⟩
  | _ => simp_all [Phase.isOver]

theorem ended_of_reaches {plan : ExecutionPlan} {testRunId : String}
    (reached : Reaches (step params) unguarded (spawn params plan testRunId) task)
    (isOver : task.phase.isOver = true) : task.Ended := by
  have holds : task.WellFormed ∧ task.Joined := by
    apply reached.invariant (fun task => task.WellFormed ∧ task.Joined)
    · rintro task action next ⟨wellFormed, joined⟩ _ taken
      exact ⟨wellFormed.of_move (move_of_step taken), joined.of_move (move_of_step taken)⟩
    · exact ⟨wellFormed_spawn params plan testRunId, nofun, nofun⟩
  obtain ⟨wellFormed, joined⟩ := holds
  have joinedUsers : task.phase.joinedUsers = true := by
    cases phase : task.phase <;> simp_all [Phase.isOver, Phase.joinedUsers]
  have returned := joined.users joinedUsers
  exact ⟨isOver, returned, wellFormed.returnedUsers returned, joined.upload isOver⟩

end RunTask

namespace Worker

variable {params : RunParams} {worker later : Worker} {label : Nat} {task : RunTask}

/-- Whatever a session does after a run task has come to report READY, the run loads no target,
sends no metric and uploads no batch any more. -/
theorem finished_run_is_quiet (reached : Reaches (step params) unguarded new worker)
    (found : worker.tasks label = some task) (isOver : task.phase.isOver = true)
    (continued : Reaches (step params) unguarded worker later) :
    ∃ after, later.tasks label = some after ∧ after.Ended ∧ task.Rests after := by
  obtain ⟨plan, testRunId, run⟩ := runTask_of_reaches reached found
  have holds :
      WellFormed params later ∧
        ∃ after, later.tasks label = some after ∧ after.Ended ∧ task.Rests after := by
    apply continued.invariant (fun state =>
      WellFormed params state ∧
        ∃ after, state.tasks label = some after ∧ after.Ended ∧ task.Rests after)
    · rintro state action next ⟨wellFormed, before, present, ended, rests⟩ _ taken
      have move := move_of_step taken
      obtain ⟨after, there, moved⟩ := taskMove_of_present wellFormed move present
      refine ⟨wellFormed.of_move move, after, there, ?_⟩
      cases moved with
      | kept => exact ⟨ended, rests⟩
      | cancelled =>
        exact ⟨⟨ended.isOver, ended.launcher, ended.users, ended.uploader⟩,
          rests.iterations, rests.sent, rests.uploaded⟩
      | stepped _ _ _ _ stepped =>
        obtain ⟨still, same⟩ := ended.of_move (RunTask.move_of_step stepped)
        exact ⟨still, same.iterations.trans rests.iterations, same.sent.trans rests.sent,
          same.uploaded.trans rests.uploaded⟩
    · have ended := RunTask.ended_of_reaches run isOver
      exact ⟨wellFormed_of_reaches reached, task, found, ended, rfl, rfl, rfl⟩
  exact holds.2

/-- The run ends when its only virtual user has panicked; a STOP follows. -/
theorem finished_run_is_quiet_sample :
    ∃ worker later, Reaches (step .sample) unguarded new worker ∧
      Reaches (step .sample) unguarded worker later ∧
        ∃ task after, worker.tasks 1 = some task ∧ later.tasks 1 = some after ∧
          task.iterations.length = 1 ∧ after.iterations = task.iterations := by
  obtain ⟨worker, reached, ended, stops⟩ :
      ∃ worker,
        Reaches (step .sample) unguarded new worker ∧
          (worker.tasks 1).any (fun task => task.phase.isOver ∧ task.iterations.length = 1) = true ∧
            (executeChecked (step .sample) unguarded worker
              [.receive (.sample 2 .stop "run-1"), .advance 2, .advance 2]).any
                (fun _ => decide True) = true :=
    Reaches.exists_of_executeChecked
      ([.receive (.sample 1 .start "run-1"), .advance 1, .advance 1, .advance 1, .advance 1] ++
        [TaskAction.orchestrator (.enter 1 0), .launcher (.buildEngine true),
          .launcher .spawnUser, .launcher .dropSender, .user 0 .start, .user 0 .check,
          .user 0 .panic, .launcher .joinHandles, .orchestrator .receiveMetric,
          .orchestrator (.flush 1000), .uploader .acknowledge, .orchestrator .joinUsers,
          .orchestrator .joinTelemetry].map (.task 1))
      (by decide +kernel)
  obtain ⟨task, found, isOver⟩ := (Option.any_eq_true _ _).mp ended
  obtain ⟨isOver, one⟩ := of_decide_eq_true isOver
  obtain ⟨later, continued, _⟩ := Reaches.exists_of_executeChecked _ stops
  obtain ⟨after, there, _, rests⟩ := finished_run_is_quiet reached found isOver continued
  exact ⟨worker, later, reached, continued, task, after, found, there, one, rests.iterations⟩

end Worker

end Strobengine.Distributed
