import Strobengine.Distributed.Worker.Invariant
import Mathlib.Data.List.Induction

/-!
# The run slot over whole sessions

The run slot is filled by the first valid START that finds it empty and is emptied by STOP alone:
neither the end of a run nor an ABORT clears it.
-/

namespace Strobengine.Distributed.Worker

open Foundations

def occupies (params : RunParams) (occupied : Bool) (received : Received) : Bool :=
  if (received.spawned params).isSome then
    true
  else if received.request.command = .stop then
    false
  else
    occupied

def occupiedAfter (params : RunParams) (handled : List Received) : Bool :=
  handled.foldl (occupies params) false

def EveryStartStopped (params : RunParams) (handled : List Received) : Prop :=
  ∀ earlier received later,
    handled = earlier ++ received :: later →
      (received.spawned params).isSome = true → ∃ stop ∈ later, stop.request.command = .stop

theorem occupiedAfter_append (params : RunParams) (handled : List Received) (received : Received) :
    occupiedAfter params (handled ++ [received]) =
      occupies params (occupiedAfter params handled) received := by
  simp [occupiedAfter, List.foldl_append]

private theorem everyStartStopped_append_iff
    (params : RunParams) (handled : List Received) (received : Received) :
    EveryStartStopped params (handled ++ [received]) ↔
      (received.spawned params).isSome = false ∧
        (received.request.command = .stop ∨ EveryStartStopped params handled) := by
  constructor
  · intro stopped
    constructor
    · cases valid : (received.spawned params).isSome with
      | false => rfl
      | true =>
        obtain ⟨stop, member, _⟩ := stopped handled received [] rfl valid
        cases member
    · by_cases isStop : received.request.command = .stop
      · exact Or.inl isStop
      · refine Or.inr ?_
        intro earlier start later split valid
        obtain ⟨stop, member, command⟩ :=
          stopped earlier start (later ++ [received]) (by simp [split]) valid
        rcases List.mem_append.mp member with inside | last
        · exact ⟨stop, inside, command⟩
        · cases List.mem_singleton.mp last
          exact False.elim (isStop command)
  · rintro ⟨invalid, closing⟩ earlier start later split valid
    rcases List.eq_nil_or_concat later with rfl | ⟨body, last, rfl⟩
    · have same := (List.append_inj' split rfl).2
      cases same
      rw [invalid] at valid
      cases valid
    · have pieces : handled ++ [received] = (earlier ++ start :: body) ++ [last] := by
        rw [split]
        simp
      obtain ⟨inside, same⟩ := List.append_inj' pieces rfl
      cases same
      rcases closing with isStop | stopped
      · exact ⟨received, by simp, isStop⟩
      · obtain ⟨stop, member, command⟩ := stopped earlier start body inside valid
        exact ⟨stop, by simp [member], command⟩

theorem occupiedAfter_eq_false_iff (params : RunParams) (handled : List Received) :
    occupiedAfter params handled = false ↔ EveryStartStopped params handled := by
  induction handled using List.reverseRecOn with
  | nil =>
    refine ⟨?_, fun _ => rfl⟩
    intro _ earlier received later split
    simp at split
  | append_singleton handled received ih =>
    rw [occupiedAfter_append, everyStartStopped_append_iff, ← ih, occupies]
    cases valid : (received.spawned params).isSome <;>
      by_cases isStop : received.request.command = .stop <;> simp [isStop]

/-! ## The slot follows the handled commands -/

def slotView (worker : Worker) : Bool :=
  match worker.loop with
  | .handling _ (.beginning _) => true
  | .handling _ .stopTaking => false
  | _ => worker.shared.run.isSome

section Slot

variable {params : RunParams} {worker next : Worker} {action : WorkerAction}

private theorem slotView_receive {received : Received} (idle : worker.loop = .idle) :
    slotView (worker.receive params received) = occupies params (slotView worker) received := by
  have before : slotView worker = worker.shared.run.isSome := by
    simp [slotView, idle]
  rw [before, occupies]
  rcases received.opening_cases params with
    ⟨plan, opened, command⟩ | ⟨opened, command⟩ | ⟨opened, command⟩ |
      ⟨status, errorMessage, opened, command⟩
  · simp [slotView, receive, Received.spawned, opened]
  · simp [slotView, receive, Received.spawned, opened, command]
  · simp [slotView, receive, Received.spawned, opened, command]
  · have notStop : received.request.command ≠ .stop := by
      rcases command with isStart | isUnspecified <;> simp [*]
    simp [slotView, receive, Received.spawned, opened, notStop]

theorem slotView_of_move (move : Move params worker action next)
    (inLine : slotView worker = occupiedAfter params worker.handled) :
    slotView next = occupiedAfter params next.handled := by
  cases move with
  | receive received idle =>
    rw [slotView_receive idle, inLine]
    exact (occupiedAfter_append params worker.handled received).symm
  | task | heartbeatAbort => simpa [slotView] using inLine
  | setRunning | setReady => simpa [slotView, Shared.setState, *] using inLine
  | stopCancel received label handling => simpa [slotView, handling, cancelTask] using inLine
  | _ => simpa [slotView, *] using inLine

/-- Between two commands the slot is occupied exactly when the handled commands leave it
so. -/
theorem run_isSome_eq_occupiedAfter (reached : Reaches (step params) unguarded new worker)
    (idle : worker.loop = .idle) :
    worker.shared.run.isSome = occupiedAfter params worker.handled := by
  have inLine : slotView worker = occupiedAfter params worker.handled := by
    apply reached.invariant (fun state => slotView state = occupiedAfter params state.handled)
    · intro state action next holds _ taken
      exact slotView_of_move (move_of_step taken) holds
    · rfl
  simpa [slotView, idle] using inLine

end Slot

/-! ## The next START -/

/-- After the START has been taken from the stream: whenever it is answered it is
acknowledged, and it can be answered with its run installed and iterating. -/
structure StartSucceeds (params : RunParams) (next : Worker) (received : Received) : Prop where
  answered :
    ∀ later, Reaches (step params) unguarded next later →
      ∀ answer ∈ later.responses, answer.1 = received.label → answer.2.status = .acknowledged
  executed :
    ∃ later,
      Reaches (step params) unguarded next later ∧
        (∃ answer ∈ later.responses, answer.1 = received.label ∧ answer.2.status = .acknowledged) ∧
        later.shared.run = some received.label ∧
        ∃ task, later.tasks received.label = some task ∧ task.iterations ≠ []

def acceptingStage (worker : Worker) : Stage → Prop
  | .beginning _ => worker.shared.run = none
  | .settingRunning _ => True
  | .storingVus _ => True
  | .acknowledging status _ => status = .acknowledged
  | _ => False

structure Accepting (label : Nat) (worker : Worker) : Prop where
  known : label ∈ worker.handled.map Received.label
  stage :
    ∀ received stage, worker.loop = .handling received stage →
      received.label = label → acceptingStage worker stage
  answers : ∀ answer ∈ worker.responses, answer.1 = label → answer.2.status = .acknowledged

section Acceptance

variable {params : RunParams} {worker next : Worker} {action : WorkerAction} {label : Nat}

private theorem stage_of_accepting
    (accepting : Accepting label worker) (move : Move params worker action next) :
    ∀ received stage, next.loop = .handling received stage →
      received.label = label → acceptingStage next stage := by
  intro received stage handling same
  cases move with
  | receive taken idle fresh =>
    cases handling
    exact False.elim (fresh (same ▸ accepting.known))
  | beginOccupied taken plan occupant before occupied =>
    cases handling
    have free : worker.shared.run = none := accepting.stage _ _ before same
    rw [free] at occupied
    cases occupied
  | beginFree | setRunning => cases handling; exact True.intro
  | storeVus => cases handling; exact rfl
  | stopFree | stopTake | stopCancel | stopJoin | stopStore | abort | setReady =>
    have before := ‹worker.loop = _›
    cases handling
    exact False.elim (accepting.stage _ _ before same)
  | acknowledge => cases handling
  | task =>
    have kept := accepting.stage _ _ handling same
    cases stage <;> first | exact (run_afterTask _ _).trans kept | exact kept
  | heartbeatAbort =>
    rw [loop_cancelRun] at handling
    have kept := accepting.stage _ _ handling same
    cases stage <;>
      first
      | exact (congrArg Shared.run (shared_cancelRun worker)).trans kept
      | exact kept

theorem Accepting.of_move
    (accepting : Accepting label worker) (move : Move params worker action next) :
    Accepting label next where
  known := by
    obtain ⟨received, member, same⟩ := List.mem_map.mp accepting.known
    exact List.mem_map.mpr ⟨received, mem_handled_of_move move member, same⟩
  stage := stage_of_accepting accepting move
  answers := by
    intro answer given same
    rcases responses_of_move move with kept | ⟨received, status, errorMessage, handling, grown⟩
    · exact accepting.answers answer (kept ▸ given) same
    · rw [grown] at given
      rcases List.mem_append.mp given with earlier | new
      · exact accepting.answers answer earlier same
      · cases List.mem_singleton.mp new
        exact accepting.stage _ _ handling same

private theorem spawn_iterates
    (params : RunParams) (shared : Shared) (plan : ExecutionPlan) (testRunId : String) :
    ∃ task,
      Reaches (RunTask.step params)
          (fun _ action =>
            shared.admits action = true ∧ shared.afterTask action = shared)
          (.spawn params plan testRunId) task ∧
        task.iterations ≠ [] := by
  refine
    ⟨_,
      .head (.orchestrator (.enter shared.activeVus 0)) ⟨by simp [Shared.admits], rfl⟩ rfl
        (.head (.launcher (.buildEngine true)) ⟨rfl, rfl⟩ rfl
          (.head (.launcher .spawnUser) ⟨rfl, rfl⟩ (if_pos plan.virtualUsersPositive)
            (.head (.user 0 .start) ⟨rfl, rfl⟩ rfl
              (.single (.user 0 .check) ⟨rfl, rfl⟩ rfl)))), ?_⟩
  simp [RunTask.spawn, RunTask.setUser]

private theorem executed_of_free {received : Received} {plan : ExecutionPlan}
    (opened : received.opening params = .beginning plan) (free : worker.shared.run = none) :
    ∃ later,
      Reaches (step params) unguarded (worker.receive params received) later ∧
        (∃ answer ∈ later.responses, answer.1 = received.label ∧ answer.2.status = .acknowledged) ∧
        later.shared.run = some received.label ∧
        ∃ task, later.tasks received.label = some task ∧ task.iterations ≠ [] := by
  let running : Shared :=
    { machine := worker.shared.machine.setState .running
      activeVus := plan.virtualUsers % 2 ^ 32
      run := some received.label }
  obtain ⟨task, iterated, nonempty⟩ := spawn_iterates params running plan (received.runId params)
  have began :
      (worker.receive params received).advance params received (.beginning plan) =
        some
          { worker.receive params received with
            shared := { worker.shared with run := some received.label }
            loop := .handling received (.settingRunning (plan.virtualUsers % 2 ^ 32)) } := by
    simp only [advance, receive, free]
  have acknowledged :
      Reaches (step params) unguarded (worker.receive params received)
        { worker.receive params received with
          shared := running
          loop := .idle
          responses :=
            worker.responses ++
              [(received.label, received.response params .acknowledged "")] } := by
    refine (reaches_of_advance (by rw [receive, opened]) began).trans ?_
    refine (reaches_of_advance rfl rfl).trans ?_
    refine (reaches_of_advance rfl rfl).trans ?_
    exact reaches_of_advance rfl rfl
  refine
    ⟨_, acknowledged.trans (reaches_of_task ?_ iterated),
      ⟨(received.label, received.response params .acknowledged ""),
        List.mem_append_right _ (List.mem_singleton.mpr rfl), rfl, rfl⟩, rfl, task,
      Function.update_self _ _ _, nonempty⟩
  simp [receive, Received.spawned, opened]

private theorem rejected_of_occupied {received : Received} {plan : ExecutionPlan}
    {occupant : Nat} (opened : received.opening params = .beginning plan)
    (occupied : worker.shared.run = some occupant) :
    ∃ later,
      Reaches (step params) unguarded (worker.receive params received) later ∧
        ∃ answer ∈ later.responses, answer.1 = received.label ∧ answer.2.status = .rejected := by
  have refused :
      (worker.receive params received).advance params received (.beginning plan) =
        some
          { worker.receive params received with
            loop :=
              .handling received
                (.acknowledging .rejected "a run is already in progress") } := by
    simp only [advance, receive, occupied]
  refine
    ⟨_, (reaches_of_advance (by rw [receive, opened]) refused).trans
      (reaches_of_advance rfl rfl), ?_⟩
  exact ⟨_, List.mem_append_right _ (List.mem_singleton.mpr rfl), rfl, rfl⟩

end Acceptance

/-- Between two commands of any session, the next valid START is acknowledged and its
run executed exactly when every valid START so far was followed by a STOP. -/
theorem next_start_acknowledged_iff
    (params : RunParams) (worker next : Worker) (received : Received)
    (reached : Reaches (step params) unguarded new worker)
    (taken : step params worker (.receive received) = some next)
    (valid : (received.spawned params).isSome = true) :
    StartSucceeds params next received ↔ EveryStartStopped params worker.handled := by
  have wellFormed := wellFormed_of_reaches reached
  obtain ⟨initial, spawned⟩ := Option.isSome_iff_exists.mp valid
  obtain ⟨plan, opened, _⟩ := Received.spawned_eq_some spawned
  cases move_of_step taken with
  | receive _ idle fresh =>
    rw [← occupiedAfter_eq_false_iff, ← run_isSome_eq_occupiedAfter reached idle]
    cases occupied : worker.shared.run with
    | none =>
      refine ⟨fun _ => rfl, fun _ => ⟨?_, executed_of_free opened occupied⟩⟩
      intro later after
      have accepting : Accepting received.label later := by
        refine after.invariant (Accepting received.label) ?_ ?_
        · intro state action following holds _ stepped
          exact holds.of_move (move_of_step stepped)
        · exact
            { known := by simp [receive]
              stage := by
                intro current stage handling _
                simp only [receive, CommandLoop.handling.injEq] at handling
                rw [← handling.2, opened]
                exact occupied
              answers := by
                intro answer given same
                exact False.elim (fresh (same ▸ wellFormed.answered answer given)) }
      exact accepting.answers
    | some =>
      refine ⟨fun succeeds => ?_, fun impossible => by cases impossible⟩
      obtain ⟨later, after, answer, given, same, rejected⟩ := rejected_of_occupied opened occupied
      have acknowledged := succeeds.answered later after answer given same
      rw [rejected] at acknowledged
      cases acknowledged

theorem next_start_acknowledged_iff_sample :
    ∃ worker next,
      Reaches (step .sample) unguarded new worker ∧
        step .sample worker (.receive (.sample 3 .start "run-2")) = some next ∧
        EveryStartStopped .sample worker.handled ∧
        StartSucceeds .sample next (.sample 3 .start "run-2") := by
  obtain ⟨worker, reached, idle, fresh, emptied⟩ :
      ∃ worker,
        Reaches (step .sample) unguarded new worker ∧
          worker.loop = .idle ∧ 3 ∉ worker.handled.map Received.label ∧
          occupiedAfter .sample worker.handled = false :=
    Reaches.exists_of_executeChecked
      [.receive (.sample 1 .start "run-1"), .advance 1, .advance 1, .advance 1,
        .advance 1, .receive (.sample 2 .stop "run-1"), .advance 2, .advance 2,
        .task 1 (.orchestrator (.enter 1 0)), .task 1 (.launcher (.buildEngine false)),
        .task 1 (.orchestrator .receiveMetric), .task 1 (.orchestrator (.flush 0)),
        .task 1 (.orchestrator .joinUsers), .task 1 (.uploader .acknowledge),
        .task 1 (.orchestrator .joinTelemetry), .task 1 (.orchestrator .resetVus),
        .task 1 (.orchestrator .setReady), .advance 2, .advance 2, .advance 2,
        .advance 2] (by decide +kernel)
  have taken :
      step .sample worker (.receive (.sample 3 .start "run-2")) =
        some (worker.receive .sample (.sample 3 .start "run-2")) := by
    simp only [step, idle]
    exact if_neg fresh
  have stopped := (occupiedAfter_eq_false_iff .sample worker.handled).mp emptied
  exact
    ⟨worker, _, reached, taken, stopped,
      (next_start_acknowledged_iff .sample worker _ _ reached taken (by decide +kernel)).mpr
        stopped⟩

/-- A run that ends by itself leaves the worker READY with no run task executing, and
the next START is rejected all the same. -/
theorem next_start_rejected_sample :
    ¬ ∀ worker next received,
        Reaches (step .sample) unguarded new worker →
          worker.shared.machine.state = .ready → worker.executing = [] →
          step .sample worker (.receive received) = some next →
          (received.spawned .sample).isSome = true → StartSucceeds .sample next received := by
  intro succeeds
  obtain ⟨worker, reached, idle, fresh, ready, quiet, occupied⟩ :
      ∃ worker,
        Reaches (step .sample) unguarded new worker ∧
          worker.loop = .idle ∧ 2 ∉ worker.handled.map Received.label ∧
          worker.shared.machine.state = .ready ∧ worker.executing = [] ∧
          worker.shared.run = some 1 :=
    Reaches.exists_of_executeChecked
      [.receive (.sample 1 .start "run-1"), .advance 1, .advance 1, .advance 1,
        .advance 1, .task 1 (.orchestrator (.enter 1 0)),
        .task 1 (.launcher (.buildEngine true)), .task 1 (.launcher .spawnUser),
        .task 1 (.launcher .dropSender), .task 1 (.user 0 .start),
        .task 1 (.user 0 .check), .task 1 (.user 0 (.respond { latencyMicros := 1000 })),
        .task 1 (.user 0 .send), .task 1 (.orchestrator .receiveMetric), .task 1 .elapse,
        .task 1 (.user 0 .check), .task 1 (.user 0 .close),
        .task 1 (.launcher .joinHandles), .task 1 (.orchestrator .receiveMetric),
        .task 1 (.orchestrator (.flush 1000)), .task 1 (.orchestrator .sendBatch),
        .task 1 (.uploader .upload), .task 1 (.uploader .acknowledge),
        .task 1 (.orchestrator .joinUsers), .task 1 (.orchestrator .joinTelemetry),
        .task 1 (.orchestrator .resetVus), .task 1 (.orchestrator .setReady)]
      (by decide +kernel)
  have taken :
      step .sample worker (.receive (.sample 2 .start "run-2")) =
        some (worker.receive .sample (.sample 2 .start "run-2")) := by
    simp only [step, idle]
    exact if_neg fresh
  obtain ⟨plan, opened⟩ :
      ∃ plan, (Received.sample 2 .start "run-2").opening .sample = .beginning plan :=
    ⟨_, rfl⟩
  obtain ⟨later, after, answer, given, same, rejected⟩ := rejected_of_occupied opened occupied
  have acknowledged :=
    (succeeds worker _ _ reached ready quiet taken (by decide +kernel)).answered later after
      answer given same
  rw [rejected] at acknowledged
  cases acknowledged

end Strobengine.Distributed.Worker
