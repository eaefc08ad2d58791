import Strobengine.Distributed.Worker.Invariant

/-!
# Rejected START commands

A START is rejected when it has no configuration, or when the run slot is occupied. In the first
case nothing has happened; in the second its run task has already been spawned.
-/

namespace Strobengine.Distributed.Worker

open Foundations

/-- A START with a valid configuration is received only while the run slot is empty. -/
def freeSlotGuard (params : RunParams) (worker : Worker) : WorkerAction → Prop
  | .receive received => (received.spawned params).isSome = true → worker.shared.run = none
  | _ => True

instance (params : RunParams) (worker : Worker) (action : WorkerAction) :
    Decidable (freeSlotGuard params worker action) := by
  unfold freeSlotGuard
  rcases action with _ | _ <;> dsimp only <;> infer_instance

def RejectedStart (worker : Worker) (label : Nat) : Prop :=
  (∃ received ∈ worker.handled, received.label = label ∧ received.request.command = .start) ∧
    ∃ answer ∈ worker.responses, answer.1 = label ∧ answer.2.status = .rejected
  deriving Decidable

/-- The command with this label, in a run that led to `worker`, has had no effect: it
has no run task that has executed an iteration or uploaded a batch, and the run without
its steps leads to the same advertised state, active virtual users and current run. -/
structure NoEffect
    (params : RunParams) (actions : List WorkerAction) (worker : Worker) (label : Nat) :
    Prop where
  inert : ∀ task, worker.tasks label = some task → task.iterations = [] ∧ task.uploaded = []
  erasable :
    ∃ without,
      execute (step params) new
          (actions.filter (fun action => action.label? ≠ some label)) = some without ∧
        without.shared = worker.shared

/-! ## Only STARTs without a run task are rejected -/

structure RejectsInert (params : RunParams) (worker : Worker) : Prop where
  free :
    ∀ received plan, worker.loop = .handling received (.beginning plan) → worker.shared.run = none
  stage :
    ∀ received errorMessage,
      worker.loop = .handling received (.acknowledging .rejected errorMessage) →
        received.spawned params = none
  answers :
    ∀ answer ∈ worker.responses, answer.2.status = .rejected →
      ∀ received ∈ worker.handled, received.label = answer.1 → received.spawned params = none

theorem rejectsInert_new (params : RunParams) : RejectsInert params new where
  free := by
    intro received plan handling
    cases handling
  stage := by
    intro received errorMessage handling
    cases handling
  answers := by
    intro answer given
    cases given

section Rejections

variable {params : RunParams} {worker next : Worker} {action : WorkerAction}

theorem eq_of_label_eq (wellFormed : WellFormed params worker) {first second : Received}
    (firstMember : first ∈ worker.handled) (secondMember : second ∈ worker.handled)
    (same : first.label = second.label) :
    first = second :=
  List.inj_on_of_nodup_map wellFormed.labels firstMember secondMember same

private theorem free_of_move (rejects : RejectsInert params worker)
    (allowed : freeSlotGuard params worker action) (move : Move params worker action next) :
    ∀ received plan, next.loop = .handling received (.beginning plan) → next.shared.run = none := by
  intro received plan handling
  cases move with
  | receive =>
    simp only [receive, CommandLoop.handling.injEq] at handling
    obtain ⟨rfl, opened⟩ := handling
    exact allowed (by simp [Received.spawned, opened])
  | task => exact (run_afterTask _ _).trans (rejects.free received plan handling)
  | heartbeatAbort =>
    rw [shared_cancelRun]
    exact rejects.free received plan ((loop_cancelRun worker).symm.trans handling)
  | _ => cases handling

private theorem stage_of_move
    (rejects : RejectsInert params worker) (move : Move params worker action next) :
    ∀ received errorMessage,
      next.loop = .handling received (.acknowledging .rejected errorMessage) →
        received.spawned params = none := by
  intro received errorMessage handling
  cases move with
  | receive =>
    simp only [receive, CommandLoop.handling.injEq] at handling
    obtain ⟨rfl, opened⟩ := handling
    simp [Received.spawned, opened]
  | beginOccupied taken plan occupant before occupied =>
    rw [rejects.free taken plan before] at occupied
    cases occupied
  | task => exact rejects.stage received errorMessage handling
  | heartbeatAbort =>
    exact rejects.stage received errorMessage ((loop_cancelRun worker).symm.trans handling)
  | _ => cases handling

private theorem answers_of_move
    (wellFormed : WellFormed params worker) (rejects : RejectsInert params worker)
    (move : Move params worker action next) :
    ∀ answer ∈ next.responses, answer.2.status = .rejected →
      ∀ received ∈ next.handled, received.label = answer.1 → received.spawned params = none := by
  intro answer given rejected received member same
  rcases handled_of_move move with ⟨taken, _, _, fresh, rfl⟩ | unchanged
  · rcases List.mem_append.mp member with earlier | new
    · exact rejects.answers answer given rejected received earlier same
    · cases List.mem_singleton.mp new
      have known := wellFormed.answered answer given
      rw [← same] at known
      exact False.elim (fresh known)
  · rw [unchanged] at member
    rcases responses_of_move move with kept | ⟨current, status, errorMessage, handling, grown⟩
    · exact rejects.answers answer (kept ▸ given) rejected received member same
    · rw [grown] at given
      rcases List.mem_append.mp given with earlier | new
      · exact rejects.answers answer earlier rejected received member same
      · cases List.mem_singleton.mp new
        have status : status = .rejected := rejected
        subst status
        have equal : received = current :=
          eq_of_label_eq wellFormed member (wellFormed.current _ _ handling) same
        rw [equal]
        exact rejects.stage current errorMessage handling

theorem RejectsInert.of_move
    (wellFormed : WellFormed params worker) (rejects : RejectsInert params worker)
    (allowed : freeSlotGuard params worker action) (move : Move params worker action next) :
    RejectsInert params next where
  free := free_of_move rejects allowed move
  stage := stage_of_move rejects move
  answers := answers_of_move wellFormed rejects move

end Rejections

variable {params : RunParams}

theorem rejectsInert_of_reaches {worker : Worker}
    (reached : Reaches (step params) (freeSlotGuard params) new worker) :
    RejectsInert params worker := by
  have invariant : WellFormed params worker ∧ RejectsInert params worker := by
    apply reached.invariant (fun state => WellFormed params state ∧ RejectsInert params state)
    · intro state action next holds allowed taken
      have move := move_of_step taken
      exact ⟨holds.1.of_move move, holds.2.of_move holds.1 allowed move⟩
    · exact ⟨wellFormed_new params, rejectsInert_new params⟩
  exact invariant.2

/-! ## Leaving out a command that is only answered -/

structure Erased (label : Nat) (worker other : Worker) : Prop where
  shared : other.shared = worker.shared
  tasks : other.tasks = worker.tasks
  handled : ∀ received ∈ other.handled, received ∈ worker.handled
  loop :
    (∃ received status errorMessage,
        received.label = label ∧
          worker.loop = .handling received (.acknowledging status errorMessage) ∧
          other.loop = .idle) ∨
      (other.loop = worker.loop ∧
        ∀ received stage, worker.loop = .handling received stage → received.label ≠ label)
  absent : worker.tasks label = none

def AnsweredAtOnce (params : RunParams) (label : Nat) (action : WorkerAction) : Prop :=
  ∀ received, action = .receive received → received.label = label →
    ∃ status errorMessage, received.opening params = .acknowledging status errorMessage

section Erasure

variable {params : RunParams} {label : Nat} {worker other next : Worker} {action : WorkerAction}
  {received : Received}

private theorem erased_receive (erased : Erased label worker other) (idle : worker.loop = .idle)
    (same : received.label = label) {status : Proto.CommandStatus} {errorMessage : String}
    (opened : received.opening params = .acknowledging status errorMessage) :
    Erased label (worker.receive params received) other := by
  have otherIdle : other.loop = .idle := by
    rcases erased.loop with ⟨_, _, _, _, loop, _⟩ | ⟨loop, _⟩
    · rw [loop] at idle
      cases idle
    · exact loop.trans idle
  have noTask : received.spawned params = none := by
    simp [Received.spawned, opened]
  have tasks : (worker.receive params received).tasks = worker.tasks := by
    rw [receive, noTask, same, ← erased.absent]
    exact Function.update_eq_self label worker.tasks
  exact
    { shared := erased.shared
      tasks := erased.tasks.trans tasks.symm
      handled := fun earlier member =>
        List.mem_append_left _ (erased.handled earlier member)
      loop :=
        Or.inl
          ⟨received, status, errorMessage, same, by simp [receive, opened], otherIdle⟩
      absent := by rw [tasks, erased.absent] }

private theorem erased_of_own
    (erased : Erased label worker other) (atOnce : AnsweredAtOnce params label action)
    (own : action.label? = some label) (taken : step params worker action = some next) :
    Erased label next other := by
  cases action with
  | receive received =>
    have same : received.label = label := Option.some.inj own
    obtain ⟨status, errorMessage, opened⟩ := atOnce received rfl same
    cases move_of_step taken with
    | receive _ idle => exact erased_receive erased idle same opened
  | advance moved =>
    have same : moved = label := Option.some.inj own
    subst same
    obtain ⟨received, stage, handling, same, advanced⟩ := advance_of_step taken
    rcases erased.loop with ⟨current, status, errorMessage, _, loop, idle⟩ | ⟨_, different⟩
    · rw [loop] at handling
      cases handling
      cases advanced
      exact
        { shared := erased.shared
          tasks := erased.tasks
          handled := erased.handled
          loop := Or.inr ⟨idle, by intro _ _ handling; cases handling⟩
          absent := erased.absent }
    · exact False.elim (different _ _ handling same)
  | task moved =>
    have same : moved = label := Option.some.inj own
    subst same
    cases move_of_step taken with
    | task _ _ task after found =>
      rw [erased.absent] at found
      cases found
  | heartbeatAbort => cases own

private theorem absent_of_move
    (move : Move params worker action next) (absent : worker.tasks label = none)
    (other : action.label? ≠ some label) :
    next.tasks label = none := by
  cases found : next.tasks label with
  | none => rfl
  | some =>
    rcases task_of_move move found with ⟨received, rfl, same, _⟩ | ⟨before, present, _⟩
    · exact False.elim (other (congrArg some same))
    · rw [absent] at present
      cases present

structure SameButHistory (worker other : Worker) : Prop where
  shared : other.shared = worker.shared
  tasks : other.tasks = worker.tasks
  loop : other.loop = worker.loop

private theorem advance_sameButHistory {stage : Stage} (same : SameButHistory worker other)
    (advanced : worker.advance params received stage = some next) :
    ∃ otherNext,
      other.advance params received stage = some otherNext ∧
        SameButHistory next otherNext ∧ otherNext.handled = other.handled := by
  obtain ⟨shared, loop, tasks, handled, responses, cancellations⟩ := other
  obtain ⟨rfl, rfl, rfl⟩ := same
  cases stage with
  | beginning | stopTaking =>
    cases occupied : worker.shared.run <;>
      · simp only [advance, occupied] at advanced ⊢
        cases advanced
        exact ⟨_, rfl, ⟨rfl, rfl, rfl⟩, rfl⟩
  | stopJoining =>
    simp only [advance] at advanced ⊢
    split at advanced
    · cases advanced
    · rename_i task found
      split at advanced
      · rename_i finished
        cases advanced
        simp only [finished, if_true]
        exact ⟨_, rfl, ⟨rfl, rfl, rfl⟩, rfl⟩
      · cases advanced
  | aborting =>
    cases advanced
    cases occupied : worker.shared.run <;>
      exact ⟨_, rfl, ⟨by simp, by simp [cancelRun, occupied, cancelTask], rfl⟩, by simp⟩
  | _ =>
    cases advanced
    exact ⟨_, rfl, ⟨rfl, rfl, rfl⟩, rfl⟩

private theorem erased_of_receive
    (erased : Erased label worker other) (different : received.label ≠ label)
    (taken : step params worker (.receive received) = some next) :
    ∃ otherNext,
      step params other (.receive received) = some otherNext ∧ Erased label next otherNext := by
  have move := move_of_step taken
  have absent : next.tasks label = none :=
    absent_of_move move erased.absent (fun same => different (Option.some.inj same))
  cases move with
  | receive _ idle fresh =>
    have otherIdle : other.loop = .idle := by
      rcases erased.loop with ⟨_, _, _, _, loop, _⟩ | ⟨loop, _⟩
      · rw [loop] at idle
        cases idle
      · exact loop.trans idle
    have otherFresh : received.label ∉ other.handled.map Received.label := by
      intro known
      obtain ⟨earlier, member, same⟩ := List.mem_map.mp known
      exact fresh (List.mem_map.mpr ⟨earlier, erased.handled earlier member, same⟩)
    refine ⟨other.receive params received, ?_, ?_⟩
    · simp only [step, otherIdle, if_neg otherFresh]
    · exact
        { shared := erased.shared
          tasks := by simp only [receive, erased.tasks]
          handled := by
            intro earlier member
            rcases List.mem_append.mp member with old | new
            · exact List.mem_append_left _ (erased.handled earlier old)
            · exact List.mem_append_right _ new
          loop := by
            refine Or.inr ⟨rfl, ?_⟩
            intro current stage handling
            cases handling
            exact different
          absent }

private theorem erased_of_advance {moved : Nat}
    (erased : Erased label worker other) (different : moved ≠ label)
    (taken : step params worker (.advance moved) = some next) :
    ∃ otherNext,
      step params other (.advance moved) = some otherNext ∧ Erased label next otherNext := by
  have move := move_of_step taken
  have absent : next.tasks label = none :=
    absent_of_move move erased.absent (fun same => different (Option.some.inj same))
  obtain ⟨received, stage, handling, rfl, advanced⟩ := advance_of_step taken
  rcases erased.loop with ⟨current, _, _, same, loop, _⟩ | ⟨sameLoop, others⟩
  · rw [loop] at handling
    cases handling
    exact False.elim (different same)
  · obtain ⟨otherNext, otherAdvanced, same, unchanged⟩ :=
      advance_sameButHistory ⟨erased.shared, erased.tasks, sameLoop⟩ advanced
    refine ⟨otherNext, ?_, ?_⟩
    · simp only [step, sameLoop, handling, if_true]
      exact otherAdvanced
    · exact
        { shared := same.shared
          tasks := same.tasks
          handled := by
            intro earlier member
            rw [unchanged] at member
            exact mem_handled_of_move move (erased.handled earlier member)
          loop := by
            refine Or.inr ⟨same.loop, ?_⟩
            intro later laterStage laterHandling
            rcases loop_of_move move laterHandling with ⟨impossible, _⟩ | ⟨earlier, before⟩
            · cases impossible
            · exact others later earlier before
          absent }

private theorem erased_of_task {moved : Nat} {taskAction : TaskAction}
    (erased : Erased label worker other) (different : moved ≠ label)
    (taken : step params worker (.task moved taskAction) = some next) :
    ∃ otherNext,
      step params other (.task moved taskAction) = some otherNext ∧
        Erased label next otherNext := by
  have move := move_of_step taken
  have absent : next.tasks label = none :=
    absent_of_move move erased.absent (fun same => different (Option.some.inj same))
  cases move with
  | task _ _ task after found admitted stepped =>
    refine
      ⟨{ other with
          shared := other.shared.afterTask taskAction
          tasks := Function.update other.tasks moved (some after) }, ?_, ?_⟩
    · simp only [step, stepTask, erased.tasks, found, erased.shared, admitted, stepped, if_true]
    · exact
        { shared := by simp only [erased.shared]
          tasks := by simp only [erased.tasks]
          handled := erased.handled
          loop := erased.loop
          absent }

private theorem erased_of_heartbeatAbort (erased : Erased label worker other) :
    Erased label worker.cancelRun other.cancelRun where
  shared := by simpa using erased.shared
  tasks := by
    simp only [cancelRun, erased.shared]
    split
    · exact erased.tasks
    · simp only [cancelTask, erased.tasks]
  handled := by simpa using erased.handled
  loop := by simpa using erased.loop
  absent := by
    rw [← Option.not_isSome_iff_eq_none, isSome_cancelRun, erased.absent]
    exact Bool.false_ne_true

theorem erase_answered {actions : List WorkerAction}
    (atOnce : ∀ action ∈ actions, AnsweredAtOnce params label action)
    (run : execute (step params) new actions = some worker) :
    ∃ without,
      execute (step params) new
          (actions.filter (fun action => action.label? ≠ some label)) = some without ∧
        without.shared = worker.shared := by
  have initially : Erased label new new :=
    { shared := rfl
      tasks := rfl
      handled := fun _ member => member
      loop := Or.inr ⟨rfl, by intro _ _ handling; cases handling⟩
      absent := rfl }
  obtain ⟨without, otherRun, erased⟩ :=
    execute_filter (Erased label) (fun action => action.label? ≠ some label)
      (fun state other action next related expected own taken =>
        erased_of_own related expected (by simpa using own) taken)
      (by
        intro state other action next related _ different taken
        have different : action.label? ≠ some label := by simpa using different
        cases action with
        | receive =>
          exact erased_of_receive related (fun same => different (congrArg some same)) taken
        | advance =>
          exact erased_of_advance related (fun same => different (congrArg some same)) taken
        | task => exact erased_of_task related (fun same => different (congrArg some same)) taken
        | heartbeatAbort =>
          cases taken
          exact ⟨_, rfl, erased_of_heartbeatAbort related⟩)
      initially atOnce run
  exact ⟨without, otherRun, erased.shared⟩

end Erasure

/-! ## Rejected STARTs have no effect -/

theorem mem_handled_of_execute {actions : List WorkerAction} {source worker : Worker}
    (run : execute (step params) source actions = some worker)
    {received : Received} (member : .receive received ∈ actions) :
    received ∈ worker.handled := by
  induction actions generalizing source with
  | nil => cases member
  | cons action rest ih =>
    obtain ⟨next, taken, remaining⟩ := execute_cons_eq_some_iff.mp run
    rcases List.mem_cons.mp member with rfl | later
    · cases move_of_step taken with
      | receive =>
        refine invariant_of_execute (fun state => received ∈ state.handled) ?_ ?_ remaining
        · intro state action after holds stepped
          exact mem_handled_of_move (move_of_step stepped) holds
        · exact List.mem_append_right _ (List.mem_singleton.mpr rfl)
    · exact ih remaining later

theorem opening_of_not_spawned {received : Received}
    (start : received.request.command = .start) (noTask : received.spawned params = none) :
    ∃ status errorMessage, received.opening params = .acknowledging status errorMessage := by
  rcases received.opening_cases params with
    ⟨plan, opened, _⟩ | ⟨_, command⟩ | ⟨_, command⟩ | ⟨status, errorMessage, opened, _⟩
  · simp [Received.spawned, opened] at noTask
  · cases start.symm.trans command
  · cases start.symm.trans command
  · exact ⟨status, errorMessage, opened⟩

/-- In every run in which well-formed STARTs are received only while the run slot is
empty, a START that is answered with REJECTED has no effect. -/
theorem rejected_start_has_no_effect
    (params : RunParams) (actions : List WorkerAction) (worker : Worker) (label : Nat)
    (guarded : Guarded (step params) (freeSlotGuard params) new actions)
    (run : execute (step params) new actions = some worker)
    (rejected : RejectedStart worker label) :
    NoEffect params actions worker label := by
  have reached : Reaches (step params) (freeSlotGuard params) new worker := ⟨actions, guarded, run⟩
  have wellFormed := wellFormed_of_reaches reached
  obtain ⟨⟨received, member, same, start⟩, answer, given, answered, status⟩ := rejected
  have noTask : received.spawned params = none :=
    (rejectsInert_of_reaches reached).answers answer given status received member
      (same.trans answered.symm)
  refine ⟨?_, erase_answered ?_ run⟩
  · intro task found
    obtain ⟨spawner, spawnerMember, spawnerSame, initial, spawned, _⟩ :=
      wellFormed.tasks label task found
    rw [eq_of_label_eq wellFormed spawnerMember member (spawnerSame.trans same.symm),
      noTask] at spawned
    cases spawned
  · intro action present current isReceive currentSame
    subst isReceive
    have equal : current = received :=
      eq_of_label_eq wellFormed (mem_handled_of_execute run present) member
        (currentSame.trans same.symm)
    rw [equal]
    exact opening_of_not_spawned start noTask

theorem rejected_start_has_no_effect_sample :
    ∃ actions worker,
      Guarded (step .sample) (freeSlotGuard .sample) new actions ∧
        execute (step .sample) new actions = some worker ∧
        RejectedStart worker 2 ∧ NoEffect .sample actions worker 2 := by
  obtain ⟨worker, guarded, run, rejected⟩ :
      ∃ worker,
        Guarded (step .sample) (freeSlotGuard .sample) new
            ([.receive (.sample 1 .start "run-1"), .advance 1, .advance 1, .advance 1,
              .advance 1, .task 1 (.orchestrator (.enter 1 0)),
              .receive
                { label := 2
                  now := 0
                  request :=
                    { command := .start, commandId := "cmd-2", testRunId := "run-2" } },
              .task 1 (.launcher (.buildEngine true)), .advance 2]) ∧
          execute (step .sample) new _ = some worker ∧ RejectedStart worker 2 :=
    exists_run_of_executeChecked (by decide +kernel)
  exact
    ⟨_, worker, guarded, run, rejected,
      rejected_start_has_no_effect .sample _ worker 2 guarded run rejected⟩

/-- A START that is rejected because a run is in progress has spawned a run task that
goes on to load its target. -/
theorem rejected_start_iterates_sample :
    ¬ ∀ actions worker label,
        execute (step .sample) new actions = some worker →
          RejectedStart worker label → NoEffect .sample actions worker label := by
  intro noEffect
  obtain ⟨worker, _, run, rejected, iterates⟩ :
      ∃ worker,
        Guarded (step .sample) unguarded new
            ([.receive (.sample 1 .start "run-1"), .advance 1, .advance 1, .advance 1,
              .advance 1, .receive (.sample 2 .start "run-2"), .advance 2, .advance 2,
              .task 2 (.orchestrator (.enter 1 0)),
              .task 2 (.launcher (.buildEngine true)), .task 2 (.launcher .spawnUser),
              .task 2 (.user 0 .start), .task 2 (.user 0 .check)]) ∧
          execute (step .sample) new _ = some worker ∧ RejectedStart worker 2 ∧
            (worker.tasks 2).any (fun task => decide (task.iterations ≠ [])) = true :=
    exists_run_of_executeChecked (by decide +kernel)
  cases found : worker.tasks 2 with
  | none => simp [found] at iterates
  | some task =>
    have inert := ((noEffect _ worker 2 run rejected).inert task found).1
    simp [found, inert] at iterates

end Strobengine.Distributed.Worker
