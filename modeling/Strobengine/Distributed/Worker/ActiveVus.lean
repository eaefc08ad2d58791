import Strobengine.Distributed.RunTask.Delivery
import Strobengine.Distributed.Worker.Invariant

/-!
# The active virtual users that a run reports

A run task reads the shared number once, when it begins. `start_run` spawns the task before it
stores the number, and the end of another run task or a STOP stores zero.
-/

namespace Strobengine.Distributed

open Metrics Foundations

/-- A batch carries the number of active virtual users of its collector, which the next
window keeps. -/
theorem WindowedCollector.activeVus_of_takeBatch
    {hdr : HdrStatistics} {collector next : WindowedCollector} {now : Int}
    {batch : Proto.MetricBatch Nat} (taken : collector.takeBatch hdr now = some (batch, next)) :
    batch.activeVus = collector.activeVus ∧ next.activeVus = collector.activeVus := by
  unfold takeBatch at taken
  split at taken
  · cases taken
  · cases taken
    exact ⟨rfl, rfl⟩

namespace RunTask

structure Reports (task : RunTask) (count : Nat) : Prop where
  collected : task.phase ≠ .spawned → task.collector.activeVus = count
  offered : ∀ batch ∈ task.phase.offered, batch.activeVus = count
  queued : ∀ batch ∈ task.batches, batch.activeVus = count
  uploaded : ∀ batch ∈ task.uploaded, batch.activeVus = count

theorem reports_spawn
    (params : RunParams) (plan : ExecutionPlan) (testRunId : String) (count : Nat) :
    (spawn params plan testRunId).Reports count where
  collected := fun begun => False.elim (begun rfl)
  offered := by
    intro batch member
    cases member
  queued := by
    intro batch member
    cases member
  uploaded := by
    intro batch member
    cases member

section Reports

variable {params : RunParams} {task next : RunTask} {action : TaskAction} {count : Nat}

theorem plan_of_move (move : Move params task action next) : next.plan = task.plan := by
  cases move <;> rfl

theorem begun_of_move (move : Move params task action next) (begun : task.phase ≠ .spawned) :
    next.phase ≠ .spawned := by
  cases move <;>
    first
      | exact begun
      | exact fun again => by cases again

private theorem Reports.rephase
    (reports : task.Reports count) (begun : task.phase ≠ .spawned) {phase : Phase}
    (unoffered : phase.offered = []) :
    ({ task with phase } : RunTask).Reports count where
  collected := fun _ => reports.collected begun
  offered := by
    rw [unoffered]
    intro batch member
    cases member
  queued := reports.queued
  uploaded := reports.uploaded

private theorem Reports.take
    (reports : task.Reports count) (begun : task.phase ≠ .spawned) {now : Int}
    {batch : Proto.MetricBatch Nat} {collector : WindowedCollector}
    (taken : task.collector.takeBatch params.hdr now = some (batch, collector))
    {phase : Phase} (offers : phase.offered = [batch]) :
    ({ task with phase, collector } : RunTask).Reports count := by
  obtain ⟨carried, kept⟩ := WindowedCollector.activeVus_of_takeBatch taken
  have collected := reports.collected begun
  exact
    { collected := fun _ => kept.trans collected
      offered := by
        rw [offers]
        intro other member
        rw [List.mem_singleton.mp member]
        exact carried.trans collected
      queued := reports.queued
      uploaded := reports.uploaded }

private theorem Reports.accept (reports : task.Reports count) (begun : task.phase ≠ .spawned)
    {batch : Proto.MetricBatch Nat} (offering : task.phase.offered = [batch])
    {phase : Phase} (unoffered : phase.offered = []) :
    ({ task with
        phase
        batches := task.batches ++ [batch]
        handed := task.handed ++ [batch] } : RunTask).Reports count where
  collected := fun _ => reports.collected begun
  offered := by
    rw [unoffered]
    intro other member
    cases member
  queued := by
    intro other member
    rcases List.mem_append.mp member with earlier | new
    · exact reports.queued other earlier
    · apply reports.offered other
      rw [offering]
      exact new
  uploaded := reports.uploaded

theorem Reports.of_move (reports : task.Reports count)
    (reads : ∀ activeVus now, action = .orchestrator (.enter activeVus now) → activeVus = count)
    (move : Move params task action next) :
    next.Reports count := by
  cases move with
  | enter activeVus now =>
    exact
      { collected := fun _ => reads activeVus now rfl
        offered := by
          intro batch member
          cases member
        queued := reports.queued
        uploaded := reports.uploaded }
  | receiveMetric =>
    exact
      { collected := fun begun => reports.collected begun
        offered := reports.offered
        queued := reports.queued
        uploaded := reports.uploaded }
  | tickBatch | flushBatch => exact reports.take (by simp [*]) ‹_› rfl
  | batchAccepted | finalAccepted =>
    exact reports.accept (by simp [*]) (by simp [*, Phase.offered]) rfl
  | upload batch rest streaming queued =>
    have reported : ∀ other ∈ batch :: rest, other.activeVus = count := queued ▸ reports.queued
    exact
      { collected := reports.collected
        offered := reports.offered
        queued := fun other member => reported other (List.mem_cons_of_mem batch member)
        uploaded := by
          intro other member
          rcases List.mem_append.mp member with earlier | new
          · exact reports.uploaded other earlier
          · rw [List.mem_singleton.mp new]
            exact reported batch List.mem_cons_self }
  | uploadFail =>
    exact
      { collected := reports.collected
        offered := reports.offered
        queued := by
          intro batch member
          cases member
        uploaded := reports.uploaded }
  | takeCancelled | channelClosed | batchRefused | finalRefused | flushEmpty | joinUsers
  | joinTelemetry | resetVus | setReady => exact reports.rephase (by simp [*]) rfl
  | _ => exact ⟨reports.collected, reports.offered, reports.queued, reports.uploaded⟩

end Reports

end RunTask

namespace Worker

/-! ## Runs that begin with the right number -/

/-- A run task begins only while the shared number of active virtual users is the number
of virtual users of its plan. -/
def countedEntry (worker : Worker) : WorkerAction → Prop
  | .task label (.orchestrator (.enter _ _)) =>
    ∀ task ∈ worker.tasks label, worker.shared.activeVus = task.plan.virtualUsers
  | _ => True

instance (worker : Worker) (action : WorkerAction) : Decidable (worker.countedEntry action) := by
  unfold countedEntry
  split <;> infer_instance

def ReportsPlans (worker : Worker) : Prop :=
  ∀ label task, worker.tasks label = some task → task.Reports task.plan.virtualUsers

section Reports

variable {params : RunParams} {worker next : Worker} {action : WorkerAction}

theorem TaskMove.reports {label count : Nat} {before after : RunTask}
    (reports : before.Reports count)
    (reads :
      ∀ activeVus now,
        action = .task label (.orchestrator (.enter activeVus now)) →
          before.phase = .spawned → worker.shared.activeVus = count)
    (move : TaskMove params worker action label before after) :
    after.Reports count ∧ after.plan = before.plan := by
  cases move with
  | kept => exact ⟨reports, rfl⟩
  | cancelled => exact ⟨⟨reports.collected, reports.offered, reports.queued, reports.uploaded⟩, rfl⟩
  | stepped taskAction _ own admitted taken =>
    have moved := RunTask.move_of_step taken
    refine ⟨reports.of_move ?_ moved, RunTask.plan_of_move moved⟩
    rintro activeVus now rfl
    have read : activeVus = worker.shared.activeVus := by simpa [Shared.admits] using admitted
    rw [read]
    cases moved with
    | enter _ _ spawned => exact reads activeVus now own spawned

theorem TaskMove.begun {label : Nat} {before after : RunTask}
    (move : TaskMove params worker action label before after) (begun : before.phase ≠ .spawned) :
    after.phase ≠ .spawned := by
  cases move with
  | kept | cancelled => exact begun
  | stepped taskAction _ own admitted taken =>
    exact RunTask.begun_of_move (RunTask.move_of_step taken) begun

theorem ReportsPlans.of_move (reports : ReportsPlans worker) (allowed : worker.countedEntry action)
    (move : Move params worker action next) :
    ReportsPlans next := by
  intro label after found
  rcases taskMove_of_move move found with ⟨received, _, _, spawned⟩ | ⟨before, present, moved⟩
  · obtain ⟨plan, _, rfl⟩ := Received.spawned_eq_some spawned
    exact RunTask.reports_spawn _ _ _ _
  · have reads :
        ∀ activeVus now,
          action = .task label (.orchestrator (.enter activeVus now)) →
            before.phase = .spawned → worker.shared.activeVus = before.plan.virtualUsers := by
      rintro activeVus now rfl _
      exact allowed before present
    obtain ⟨kept, plan⟩ := moved.reports (reports label before present) reads
    rw [plan]
    exact kept

theorem reportsPlans_of_reaches (reached : Reaches (step params) countedEntry new worker) :
    ReportsPlans worker := by
  apply reached.invariant ReportsPlans
  · intro state action next holds allowed taken
    exact holds.of_move allowed (move_of_step taken)
  · intro label task found
    cases found

end Reports

/-- In every interleaving in which run tasks begin with the number of their plan, every
uploaded batch carries that number. -/
theorem uploaded_active_vus (params : RunParams) (worker : Worker)
    (reached : Reaches (step params) countedEntry new worker) :
    ∀ label task, worker.tasks label = some task →
      ∀ batch ∈ task.uploaded, batch.activeVus = task.plan.virtualUsers :=
  fun label task found => (reportsPlans_of_reaches reached label task found).uploaded

def uploadActions : List WorkerAction :=
  [TaskAction.launcher (.buildEngine true), .launcher .spawnUser, .user 0 .start, .user 0 .check,
    .user 0 (.respond { latencyMicros := 1200 }), .user 0 .send, .orchestrator .receiveMetric,
    .orchestrator (.tick 1000), .orchestrator .sendBatch, .uploader .upload].map (.task 1)

theorem uploaded_active_vus_sample :
    ∃ worker task batch,
      Reaches (step .sample) countedEntry new worker ∧
        worker.tasks 1 = some task ∧ batch ∈ task.uploaded ∧
        batch.activeVus = task.plan.virtualUsers := by
  obtain ⟨worker, reached, uploads⟩ :
      ∃ worker,
        Reaches (step .sample) countedEntry new worker ∧
          (worker.tasks 1).any (fun task => task.uploaded ≠ []) = true :=
    Reaches.exists_of_executeChecked
      ([.receive (.sample 1 .start "run-1"), .advance 1, .advance 1, .advance 1,
        .task 1 (.orchestrator (.enter 1 0))] ++ uploadActions)
      (by decide +kernel)
  obtain ⟨task, found, some⟩ := (Option.any_eq_true _ _).mp uploads
  obtain ⟨batch, member⟩ : ∃ batch, batch ∈ task.uploaded :=
    List.exists_mem_of_ne_nil _ (by simpa using some)
  exact
    ⟨worker, task, batch, reached, found, member,
      uploaded_active_vus .sample worker reached 1 task found batch member⟩

/-- A run task that begins before the command loop has stored the number of its plan
uploads batches that report no active virtual users. -/
theorem uploaded_no_active_vus_sample :
    ¬ ∀ worker,
        Reaches (step .sample) unguarded new worker →
          ∀ label task, worker.tasks label = some task →
            ∀ batch ∈ task.uploaded, batch.activeVus = task.plan.virtualUsers := by
  refine
    Reaches.not_forall_of_executeChecked
      (fun worker => (worker.tasks 1).any (fun task =>
        task.plan.virtualUsers = 1 ∧ ∃ batch ∈ task.uploaded, batch.activeVus = 0) = true)
      ([.receive (.sample 1 .start "run-1"), .task 1 (.orchestrator (.enter 0 0)),
        .advance 1, .advance 1, .advance 1] ++ uploadActions)
      (by decide +kernel) ?_
  intro worker _ uploads carried
  obtain ⟨task, found, uploads⟩ := (Option.any_eq_true _ _).mp uploads
  obtain ⟨planned, batch, member, none⟩ :
      task.plan.virtualUsers = 1 ∧ ∃ batch ∈ task.uploaded, batch.activeVus = 0 := by
    simpa using uploads
  have right := carried 1 task found batch member
  rw [planned, none] at right
  cases right

section Read

variable {params : RunParams} {worker next later : Worker}

theorem reports_of_spawned (wellFormed : WellFormed params worker) {label : Nat} {task : RunTask}
    (found : worker.tasks label = some task) (spawned : task.phase = .spawned) (count : Nat) :
    task.Reports count := by
  obtain ⟨received, _, _, initial, started, reached⟩ := wellFormed.tasks label task found
  obtain ⟨plan, _, rfl⟩ := Received.spawned_eq_some started
  have invariant : task.phase = .spawned → task.Reports count := by
    apply reached.invariant (fun state => state.phase = .spawned → state.Reports count)
    · intro state action next holds _ taken waiting
      have move := RunTask.move_of_step taken
      have before : state.phase = .spawned := by
        by_contra begun
        exact RunTask.begun_of_move move begun waiting
      refine (holds before).of_move ?_ move
      rintro activeVus now rfl
      cases move
      cases waiting
    · intro _
      exact RunTask.reports_spawn _ _ _ _
  exact invariant spawned

/-- Every batch that a run task uploads carries the number that was shared when the task
began, whatever happens to the shared number later. -/
theorem uploaded_as_read (reached : Reaches (step params) unguarded new worker)
    {label activeVus : Nat} {now : Int}
    (began : step params worker (.task label (.orchestrator (.enter activeVus now))) = some next)
    (continued : Reaches (step params) unguarded next later)
    {task : RunTask} (found : later.tasks label = some task) :
    ∀ batch ∈ task.uploaded, batch.activeVus = worker.shared.activeVus := by
  have wellFormed := wellFormed_of_reaches reached
  have invariant :
      WellFormed params later ∧
        ∃ task,
          later.tasks label = some task ∧ task.phase ≠ .spawned ∧
            task.Reports worker.shared.activeVus := by
    apply continued.invariant
      (fun state =>
        WellFormed params state ∧
          ∃ task,
            state.tasks label = some task ∧ task.phase ≠ .spawned ∧
              task.Reports worker.shared.activeVus)
    · rintro state action after ⟨formed, before, present, begun, reports⟩ _ taken
      have move := move_of_step taken
      obtain ⟨moved, there, change⟩ := taskMove_of_present formed move present
      have kept := change.reports reports (fun _ _ _ spawned => False.elim (begun spawned))
      exact ⟨formed.of_move move, moved, there, change.begun begun, kept.1⟩
    · have move := move_of_step began
      refine ⟨wellFormed.of_move move, ?_⟩
      cases move with
      | task _ _ before after present admitted taken =>
        have read : activeVus = worker.shared.activeVus := by
          simpa [Shared.admits] using admitted
        have moved := RunTask.move_of_step taken
        have spawned : before.phase = .spawned := by
          cases moved
          assumption
        have reports := reports_of_spawned wellFormed present spawned activeVus
        have begun : after.phase ≠ .spawned := by
          cases moved
          exact fun again => by cases again
        refine ⟨after, Function.update_self label (some after) worker.tasks, begun, ?_⟩
        rw [← read]
        exact reports.of_move (by rintro _ _ ⟨⟩; rfl) moved
  obtain ⟨_, other, present, _, reports⟩ := invariant
  cases present.symm.trans found
  exact reports.uploaded

end Read

/-- The run task begins before the number of its plan is stored, and uploads after it. -/
theorem uploaded_as_read_sample :
    ∃ worker next later task,
      Reaches (step .sample) unguarded new worker ∧
        step .sample worker (.task 1 (.orchestrator (.enter 0 0))) = some next ∧
          Reaches (step .sample) unguarded next later ∧ later.tasks 1 = some task ∧
            task.uploaded ≠ [] ∧ later.shared.activeVus = 1 ∧
              ∀ batch ∈ task.uploaded, batch.activeVus = worker.shared.activeVus := by
  obtain ⟨worker, reached, begins⟩ :
      ∃ worker,
        Reaches (step .sample) unguarded new worker ∧
          (step .sample worker (.task 1 (.orchestrator (.enter 0 0)))).any (fun next =>
            (executeChecked (step .sample) unguarded next
              ([.advance 1, .advance 1, .advance 1] ++ uploadActions)).any (fun later =>
                decide ((later.tasks 1).any (fun task => task.uploaded ≠ []) = true ∧
                  later.shared.activeVus = 1))) = true :=
    Reaches.exists_of_executeChecked [.receive (.sample 1 .start "run-1")] (by decide +kernel)
  obtain ⟨next, began, continues⟩ := (Option.any_eq_true _ _).mp begins
  obtain ⟨later, continued, uploads, stored⟩ := Reaches.exists_of_executeChecked _ continues
  obtain ⟨task, found, some⟩ := (Option.any_eq_true _ _).mp uploads
  exact
    ⟨worker, next, later, task, reached, began, continued, found, by simpa using some, stored,
      uploaded_as_read reached began continued found⟩

end Worker

end Strobengine.Distributed
