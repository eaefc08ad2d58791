import Strobengine.Distributed.Worker
import Mathlib.Data.List.Nodup

/-!
# What holds in every worker session

The labels of the handled commands are distinct, every run task was spawned by the START
with its label and has been reached by steps of the run task model, and the run slot
always holds a run task that exists.
-/

namespace Strobengine.Distributed

open Foundations

theorem Received.opening_cases (params : RunParams) (received : Received) :
    (∃ plan,
        received.opening params = .beginning plan ∧ received.request.command = .start) ∨
      (received.opening params = .stopTaking ∧ received.request.command = .stop) ∨
      (received.opening params = .aborting ∧ received.request.command = .abort) ∨
      ∃ status errorMessage,
        received.opening params = .acknowledging status errorMessage ∧
          (received.request.command = .start ∨ received.request.command = .unspecified) := by
  unfold opening
  cases received.request.command with
  | start =>
    cases received.request.config with
    | none => exact Or.inr (Or.inr (Or.inr ⟨_, _, rfl, Or.inl rfl⟩))
    | some config =>
      cases parsed :
        ExecutionPlan.fromProto params.http config params.maxVus
          params.requestTimeoutMs with
      | error reason =>
        exact Or.inr (Or.inr (Or.inr ⟨.failed, reason.toText, by simp only [parsed], Or.inl rfl⟩))
      | ok plan => exact Or.inl ⟨plan, by simp only [parsed], rfl⟩
  | stop => exact Or.inr (Or.inl ⟨rfl, rfl⟩)
  | abort => exact Or.inr (Or.inr (Or.inl ⟨rfl, rfl⟩))
  | unspecified => exact Or.inr (Or.inr (Or.inr ⟨_, _, rfl, Or.inr rfl⟩))

theorem Received.spawned_eq_some {params : RunParams} {received : Received} {task : RunTask}
    (spawned : received.spawned params = some task) :
    ∃ plan,
      received.opening params = .beginning plan ∧
        task = .spawn params plan (received.runId params) := by
  unfold Received.spawned at spawned
  split at spawned
  · rename_i plan opened
    cases spawned
    exact ⟨plan, opened, rfl⟩
  · cases spawned

namespace Worker

structure WellFormed (params : RunParams) (worker : Worker) : Prop where
  labels : (worker.handled.map Received.label).Nodup
  current : ∀ received stage, worker.loop = .handling received stage → received ∈ worker.handled
  begun :
    ∀ received plan,
      worker.loop = .handling received (.beginning plan) →
        received.opening params = .beginning plan ∧ (worker.tasks received.label).isSome = true
  tasks :
    ∀ label task, worker.tasks label = some task →
      ∃ received ∈ worker.handled,
        received.label = label ∧
          ∃ initial,
            received.spawned params = some initial ∧
              Reaches (RunTask.step params) unguarded initial task
  slot : ∀ label, worker.shared.run = some label → (worker.tasks label).isSome = true
  answered : ∀ answer ∈ worker.responses, answer.1 ∈ worker.handled.map Received.label

theorem wellFormed_new (params : RunParams) : WellFormed params new where
  labels := List.nodup_nil
  current := by
    intro received stage handling
    cases handling
  begun := by
    intro received plan handling
    cases handling
  tasks := by
    intro label task found
    cases found
  slot := by
    intro label occupied
    cases occupied
  answered := by
    intro answer present
    cases present

section Effects

variable {params : RunParams} {worker next : Worker} {action : WorkerAction}

theorem tasks_cancelTask (worker : Worker) (label other : Nat) :
    (worker.cancelTask label).tasks other =
      if other = label then
        (worker.tasks label).map (fun task => { task with cancelled := true })
      else
        worker.tasks other := by
  simp only [cancelTask, Function.update_apply]

@[simp]
theorem shared_cancelRun (worker : Worker) : worker.cancelRun.shared = worker.shared := by
  unfold cancelRun
  split <;> rfl

@[simp]
theorem loop_cancelRun (worker : Worker) : worker.cancelRun.loop = worker.loop := by
  unfold cancelRun
  split <;> rfl

@[simp]
theorem handled_cancelRun (worker : Worker) : worker.cancelRun.handled = worker.handled := by
  unfold cancelRun
  split <;> rfl

@[simp]
theorem responses_cancelRun (worker : Worker) : worker.cancelRun.responses = worker.responses := by
  unfold cancelRun
  split <;> rfl

@[simp]
theorem cancellations_cancelRun (worker : Worker) :
    worker.cancelRun.cancellations = worker.cancellations := by
  unfold cancelRun
  split <;> rfl

/-- What one step of the session may do to one run task: nothing, a cancellation of its
token, or a step of its own. -/
inductive TaskChange (params : RunParams) (before : RunTask) : RunTask → Prop where
  | kept : TaskChange params before before
  | cancelled : TaskChange params before { before with cancelled := true }
  | stepped (action : TaskAction) (after : RunTask)
      (taken : before.step params action = some after) :
      TaskChange params before after

variable {before after : RunTask}

theorem TaskChange.reaches (change : TaskChange params before after) :
    Reaches (RunTask.step params) unguarded before after := by
  cases change with
  | kept => exact .refl before
  | cancelled => exact .single .cancel True.intro rfl
  | stepped action _ taken => exact .single action True.intro taken

inductive TaskMove
    (params : RunParams) (worker : Worker) (action : WorkerAction) (label : Nat)
    (before : RunTask) : RunTask → Prop where
  | kept : TaskMove params worker action label before before
  | cancelled : TaskMove params worker action label before { before with cancelled := true }
  | stepped (taskAction : TaskAction) (after : RunTask) (own : action = .task label taskAction)
      (admitted : worker.shared.admits taskAction = true)
      (taken : before.step params taskAction = some after) :
      TaskMove params worker action label before after

variable {label : Nat}

theorem TaskMove.change (move : TaskMove params worker action label before after) :
    TaskChange params before after := by
  cases move with
  | kept => exact .kept
  | cancelled => exact .cancelled
  | stepped taskAction _ own admitted taken => exact .stepped taskAction after taken

private theorem taskMove_cancelTask {other : Nat}
    (found : (worker.cancelTask label).tasks other = some after) :
    ∃ before,
      worker.tasks other = some before ∧ TaskMove params worker action other before after := by
  rw [tasks_cancelTask] at found
  split at found
  · rename_i same
    subst same
    obtain ⟨before, present, changed⟩ := Option.map_eq_some_iff.mp found
    subst changed
    exact ⟨before, present, .cancelled⟩
  · exact ⟨after, found, .kept⟩

private theorem taskMove_cancelRun {other : Nat}
    (found : worker.cancelRun.tasks other = some after) :
    ∃ before,
      worker.tasks other = some before ∧ TaskMove params worker action other before after := by
  unfold cancelRun at found
  split at found
  · exact ⟨after, found, .kept⟩
  · exact taskMove_cancelTask found

theorem taskMove_of_move (move : Move params worker action next)
    (found : next.tasks label = some after) :
    (∃ received,
        action = .receive received ∧ received.label = label ∧
          received.spawned params = some after) ∨
      ∃ before,
        worker.tasks label = some before ∧ TaskMove params worker action label before after := by
  cases move with
  | receive received =>
    simp only [receive, Function.update_apply] at found
    split at found
    · rename_i same
      exact Or.inl ⟨received, rfl, same.symm, found⟩
    · exact Or.inr ⟨after, found, .kept⟩
  | stopCancel => exact Or.inr (taskMove_cancelTask found)
  | abort | heartbeatAbort => exact Or.inr (taskMove_cancelRun found)
  | task other taskAction task moved present admitted taken =>
    simp only [Function.update_apply] at found
    split at found
    · rename_i same
      subst same
      cases found
      exact Or.inr ⟨task, present, .stepped taskAction after rfl admitted taken⟩
    · exact Or.inr ⟨after, found, .kept⟩
  | _ => exact Or.inr ⟨after, found, .kept⟩

theorem task_of_move (move : Move params worker action next)
    (found : next.tasks label = some after) :
    (∃ received,
        action = .receive received ∧ received.label = label ∧
          received.spawned params = some after) ∨
      ∃ before, worker.tasks label = some before ∧ TaskChange params before after := by
  rcases taskMove_of_move move found with new | ⟨before, present, moved⟩
  · exact Or.inl new
  · exact Or.inr ⟨before, present, moved.change⟩

theorem isSome_cancelRun (worker : Worker) (label : Nat) :
    (worker.cancelRun.tasks label).isSome = (worker.tasks label).isSome := by
  unfold cancelRun
  split
  · rfl
  · rw [tasks_cancelTask]
    split
    · rename_i same
      subst same
      exact Option.isSome_map
    · rfl

theorem isSome_of_move
    (wellFormed : WellFormed params worker) (move : Move params worker action next)
    (present : (worker.tasks label).isSome = true) :
    (next.tasks label).isSome = true := by
  cases move with
  | receive received idle fresh =>
    obtain ⟨task, found⟩ := Option.isSome_iff_exists.mp present
    obtain ⟨earlier, member, same, _⟩ := wellFormed.tasks label task found
    have different : label ≠ received.label := by
      intro equal
      exact fresh (List.mem_map.mpr ⟨earlier, member, same.trans equal⟩)
    simpa only [receive, Function.update_apply, if_neg different] using present
  | stopCancel =>
    simp only [tasks_cancelTask]
    split
    · rename_i same
      subst same
      simpa using present
    · exact present
  | abort | heartbeatAbort => exact (isSome_cancelRun worker label).trans present
  | task =>
    simp only [Function.update_apply]
    split
    · rfl
    · exact present
  | _ => exact present

theorem taskMove_of_present
    (wellFormed : WellFormed params worker) (move : Move params worker action next)
    (present : worker.tasks label = some before) :
    ∃ after, next.tasks label = some after ∧ TaskMove params worker action label before after := by
  obtain ⟨after, found⟩ :=
    Option.isSome_iff_exists.mp
      (isSome_of_move wellFormed move (Option.isSome_of_mem present))
  rcases taskMove_of_move move found with ⟨received, rfl, same, _⟩ | ⟨other, found', moved⟩
  · obtain ⟨earlier, member, known, _⟩ := wellFormed.tasks label before present
    cases move with
    | receive _ idle fresh =>
      exact False.elim (fresh (List.mem_map.mpr ⟨earlier, member, known.trans same.symm⟩))
  · cases present.symm.trans found'
    exact ⟨after, found, moved⟩

theorem handled_of_move (move : Move params worker action next) :
    (∃ received,
        action = .receive received ∧ worker.loop = .idle ∧
          received.label ∉ worker.handled.map Received.label ∧
          next = worker.receive params received) ∨
      next.handled = worker.handled := by
  cases move with
  | receive received idle fresh => exact Or.inl ⟨received, rfl, idle, fresh, rfl⟩
  | abort | heartbeatAbort => exact Or.inr (handled_cancelRun worker)
  | _ => exact Or.inr rfl

theorem mem_handled_of_move (move : Move params worker action next) {received : Received}
    (present : received ∈ worker.handled) :
    received ∈ next.handled := by
  rcases handled_of_move move with ⟨taken, _, _, _, rfl⟩ | same
  · exact List.mem_append_left _ present
  · rw [same]
    exact present

theorem loop_of_move (move : Move params worker action next) {received : Received} {stage : Stage}
    (handling : next.loop = .handling received stage) :
    (action = .receive received ∧ stage = received.opening params) ∨
      ∃ earlier, worker.loop = .handling received earlier := by
  cases move with
  | receive =>
    cases handling
    exact Or.inl ⟨rfl, rfl⟩
  | acknowledge => cases handling
  | task => exact Or.inr ⟨stage, handling⟩
  | heartbeatAbort => exact Or.inr ⟨stage, (loop_cancelRun worker).symm.trans handling⟩
  | _ => cases handling; exact Or.inr ⟨_, ‹worker.loop = _›⟩

theorem responses_of_move (move : Move params worker action next) :
    next.responses = worker.responses ∨
      ∃ received status errorMessage,
        worker.loop = .handling received (.acknowledging status errorMessage) ∧
          next.responses =
            worker.responses ++
              [(received.label, received.response params status errorMessage)] := by
  cases move with
  | acknowledge received status errorMessage handling =>
    exact Or.inr ⟨received, status, errorMessage, handling, rfl⟩
  | abort | heartbeatAbort => exact Or.inl (responses_cancelRun worker)
  | _ => exact Or.inl rfl

@[simp]
theorem run_afterTask (shared : Shared) (action : TaskAction) :
    (shared.afterTask action).run = shared.run := by
  unfold Shared.afterTask
  split <;> rfl

end Effects

section Preservation

variable {params : RunParams} {worker next : Worker} {action : WorkerAction}

private theorem labels_of_move
    (wellFormed : WellFormed params worker) (move : Move params worker action next) :
    (next.handled.map Received.label).Nodup := by
  rcases handled_of_move move with ⟨received, _, _, fresh, rfl⟩ | same
  · simp only [receive, List.map_append, List.map_cons, List.map_nil]
    rw [← List.concat_eq_append]
    exact wellFormed.labels.concat fresh
  · rw [same]
    exact wellFormed.labels

private theorem current_of_move
    (wellFormed : WellFormed params worker) (move : Move params worker action next) :
    ∀ received stage, next.loop = .handling received stage → received ∈ next.handled := by
  intro received stage handling
  rcases loop_of_move move handling with ⟨rfl, _⟩ | ⟨earlier, before⟩
  · cases move
    exact List.mem_append_right _ (List.mem_singleton.mpr rfl)
  · exact mem_handled_of_move move (wellFormed.current received earlier before)

private theorem tasks_of_move
    (wellFormed : WellFormed params worker) (move : Move params worker action next) :
    ∀ label task, next.tasks label = some task →
      ∃ received ∈ next.handled,
        received.label = label ∧
          ∃ initial,
            received.spawned params = some initial ∧
              Reaches (RunTask.step params) unguarded initial task := by
  intro label after found
  rcases task_of_move move found with ⟨received, rfl, same, spawned⟩ | ⟨before, present, change⟩
  · refine ⟨received, ?_, same, after, spawned, .refl after⟩
    cases move
    exact List.mem_append_right _ (List.mem_singleton.mpr rfl)
  · obtain ⟨received, member, same, initial, spawned, reached⟩ :=
      wellFormed.tasks label before present
    exact
      ⟨received, mem_handled_of_move move member, same, initial, spawned,
        reached.trans change.reaches⟩

private theorem begun_of_move
    (wellFormed : WellFormed params worker) (move : Move params worker action next) :
    ∀ received plan,
      next.loop = .handling received (.beginning plan) →
        received.opening params = .beginning plan ∧ (next.tasks received.label).isSome = true := by
  intro received plan handling
  have kept :
      worker.loop = .handling received (.beginning plan) →
        received.opening params = .beginning plan ∧ (next.tasks received.label).isSome = true :=
    fun before =>
      ⟨(wellFormed.begun received plan before).1,
        isSome_of_move wellFormed move (wellFormed.begun received plan before).2⟩
  cases move with
  | receive =>
    simp only [receive, CommandLoop.handling.injEq] at handling
    obtain ⟨rfl, opened⟩ := handling
    refine ⟨opened, ?_⟩
    simp [receive, Received.spawned, opened]
  | task => exact kept handling
  | heartbeatAbort => exact kept ((loop_cancelRun worker).symm.trans handling)
  | _ => cases handling

private theorem slot_of_move
    (wellFormed : WellFormed params worker) (move : Move params worker action next) :
    ∀ label, next.shared.run = some label → (next.tasks label).isSome = true := by
  intro label occupied
  apply isSome_of_move wellFormed move
  cases move with
  | beginFree received plan handling =>
    cases occupied
    exact (wellFormed.begun received plan handling).2
  | stopTake => cases occupied
  | task => exact wellFormed.slot label ((run_afterTask _ _).symm.trans occupied)
  | abort =>
    simp only [shared_cancelRun] at occupied
    exact wellFormed.slot label occupied
  | heartbeatAbort =>
    rw [shared_cancelRun] at occupied
    exact wellFormed.slot label occupied
  | _ => exact wellFormed.slot label occupied

private theorem answered_of_move
    (wellFormed : WellFormed params worker) (move : Move params worker action next) :
    ∀ answer ∈ next.responses, answer.1 ∈ next.handled.map Received.label := by
  intro answer given
  have kept : answer ∈ worker.responses → answer.1 ∈ next.handled.map Received.label := by
    intro earlier
    obtain ⟨received, member, same⟩ := List.mem_map.mp (wellFormed.answered answer earlier)
    exact List.mem_map.mpr ⟨received, mem_handled_of_move move member, same⟩
  rcases responses_of_move move with same | ⟨received, status, errorMessage, handling, grown⟩
  · exact kept (same ▸ given)
  · rw [grown] at given
    rcases List.mem_append.mp given with earlier | new
    · exact kept earlier
    · cases List.mem_singleton.mp new
      exact
        List.mem_map.mpr
          ⟨received, mem_handled_of_move move (wellFormed.current _ _ handling), rfl⟩

theorem WellFormed.of_move
    (wellFormed : WellFormed params worker) (move : Move params worker action next) :
    WellFormed params next where
  labels := labels_of_move wellFormed move
  current := current_of_move wellFormed move
  begun := begun_of_move wellFormed move
  tasks := tasks_of_move wellFormed move
  slot := slot_of_move wellFormed move
  answered := answered_of_move wellFormed move

end Preservation

variable {params : RunParams} {worker : Worker}

theorem wellFormed_of_reaches {guard : Worker → WorkerAction → Prop}
    (reached : Reaches (step params) guard new worker) :
    WellFormed params worker := by
  apply reached.invariant (WellFormed params)
  · intro state action next holds _ taken
    exact holds.of_move (move_of_step taken)
  · exact wellFormed_new params

/-- The run tasks of a session are runs of the run task model: what is proved about
those holds for every run task of every worker session. -/
theorem runTask_of_reaches {guard : Worker → WorkerAction → Prop}
    (reached : Reaches (step params) guard new worker)
    {label : Nat} {task : RunTask} (found : worker.tasks label = some task) :
    ∃ plan testRunId,
      Reaches (RunTask.step params) unguarded (.spawn params plan testRunId) task := by
  obtain ⟨received, _, _, initial, spawned, later⟩ :=
    (wellFormed_of_reaches reached).tasks label task found
  obtain ⟨plan, _, rfl⟩ := Received.spawned_eq_some spawned
  exact ⟨plan, received.runId params, later⟩

theorem reaches_of_advance {next : Worker} {received : Received} {stage : Stage}
    (handling : worker.loop = .handling received stage)
    (advanced : worker.advance params received stage = some next) :
    Reaches (step params) unguarded worker next :=
  .single (.advance received.label) True.intro ((step_advance handling).trans advanced)

theorem reaches_of_task {label : Nat} {task after : RunTask}
    (found : worker.tasks label = some task)
    (reached :
      Reaches (RunTask.step params)
        (fun _ action =>
          worker.shared.admits action = true ∧ worker.shared.afterTask action = worker.shared)
        task after) :
    Reaches (step params) unguarded worker
      { worker with tasks := Function.update worker.tasks label (some after) } := by
  obtain ⟨actions, guarded, run⟩ := reached
  induction actions generalizing worker task with
  | nil =>
    cases run
    rw [← found, Function.update_eq_self]
    exact .refl worker
  | cons action rest ih =>
    obtain ⟨next, taken, remaining⟩ := execute_cons_eq_some_iff.mp run
    obtain ⟨⟨admitted, unshared⟩, later⟩ := guarded
    have moved :
        step params worker (.task label action) =
          some { worker with tasks := Function.update worker.tasks label (some next) } := by
      simp only [step, stepTask, found, admitted, taken, unshared, if_true]
    have continued :
        Reaches (step params) unguarded
          { worker with tasks := Function.update worker.tasks label (some next) }
          { worker with
            tasks :=
              Function.update (Function.update worker.tasks label (some next)) label
                (some after) } :=
      ih (Function.update_self label (some next) worker.tasks)
        (later next taken) remaining
    rw [Function.update_idem] at continued
    exact .head (.task label action) True.intro moved continued

end Worker

end Strobengine.Distributed
