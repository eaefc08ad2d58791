import Strobengine.Distributed.RunTask

/-!
# The command loop of a worker and its run tasks

The command loop handles one command at a time, the run tasks proceed on their own, and the
heartbeat loop may cancel the current run. What they share is behind locks of its own, so every
access is a step. The label of a command is also the identity of the run task it spawns.
-/

namespace Strobengine.Distributed

open Foundations

/-- A command taken from the command stream; `now` is the wall clock in Unix seconds. -/
structure Received where
  label : Nat
  now : Int
  request : Proto.CommandRequest
  deriving DecidableEq, Repr

inductive Stage where
  | beginning (plan : ExecutionPlan)
  | settingRunning (virtualUsers : Nat)
  | storingVus (virtualUsers : Nat)
  | stopTaking
  | stopCancelling (task : Nat)
  | stopJoining (task : Nat)
  | stopStoring
  | aborting
  | settingReady
  | acknowledging (status : Proto.CommandStatus) (errorMessage : String)
  deriving DecidableEq

namespace Received

def runId (params : RunParams) (received : Received) : String :=
  if received.request.testRunId = "" then
    params.workerId ++ "-" ++ toString received.now
  else
    received.request.testRunId

def opening (params : RunParams) (received : Received) : Stage :=
  match received.request.command with
  | .start =>
    match received.request.config with
    | none => .acknowledging .rejected "START command missing TestConfiguration"
    | some config =>
      match
        ExecutionPlan.fromProto params.http config params.maxVus
          params.requestTimeoutMs with
      | .error reason => .acknowledging .failed reason.toText
      | .ok plan => .beginning plan
  | .stop => .stopTaking
  | .abort => .aborting
  | .unspecified => .acknowledging .rejected "unspecified command"

def spawned (params : RunParams) (received : Received) : Option RunTask :=
  match received.opening params with
  | .beginning plan => some (RunTask.spawn params plan (received.runId params))
  | _ => none

def response (params : RunParams) (received : Received) (status : Proto.CommandStatus)
    (errorMessage : String) : Proto.CommandResponse :=
  { commandId := received.request.commandId
    workerId := params.workerId
    status
    errorMessage }

end Received

def Received.sample (label : Nat) (command : Proto.CommandType) (testRunId : String) : Received :=
  { label
    now := 0
    request :=
      { command
        commandId := "cmd-" ++ testRunId
        testRunId
        config :=
          some
            { targets := [⟨"http://target/"⟩]
              duration := some { seconds := 1, nanos := 0 }
              virtualUsers := 1 } } }

/-- State shared between the heartbeat loop, the command loop and the run tasks. The
run slot holds the label of the installed run. -/
structure Shared where
  machine : WorkerStateMachine
  activeVus : Nat
  run : Option Nat
  deriving DecidableEq, Repr

namespace Shared

def new : Shared :=
  { machine := .new
    activeVus := 0
    run := none }

def setState (shared : Shared) (next : WorkerState) : Shared :=
  { shared with machine := shared.machine.setState next }

/-- What a step of a run task does to the shared state: `run_orchestrator` ends with
`active_vus.store(0)` and `set_state(Ready)`. -/
def afterTask (shared : Shared) : TaskAction → Shared
  | .orchestrator .resetVus => { shared with activeVus := 0 }
  | .orchestrator .setReady => shared.setState .ready
  | _ => shared

/-- Steps a run task takes by itself: its token is cancelled by others, and it reads the
number of active virtual users when it starts. -/
def admits (shared : Shared) : TaskAction → Bool
  | .cancel => false
  | .orchestrator (.enter activeVus _) => activeVus = shared.activeVus
  | _ => true

end Shared

inductive CommandLoop where
  | idle
  | handling (received : Received) (stage : Stage)
  deriving DecidableEq

/-- A command's cancellation of a run that was neither finished nor cancelled before. -/
structure Cancellation where
  request : Proto.CommandRequest
  testRunId : String

/-- The state of a worker session. The last three fields are history. -/
structure Worker where
  shared : Shared
  loop : CommandLoop
  tasks : Nat → Option RunTask
  handled : List Received
  responses : List (Nat × Proto.CommandResponse)
  cancellations : List Cancellation

/-- Steps of a worker session; `heartbeatAbort` is an ABORT directive in the reply to a
heartbeat. -/
inductive WorkerAction where
  | receive (received : Received)
  | advance (label : Nat)
  | task (label : Nat) (action : TaskAction)
  | heartbeatAbort

def WorkerAction.label? : WorkerAction → Option Nat
  | .receive received => some received.label
  | .advance label => some label
  | .task label _ => some label
  | .heartbeatAbort => none

namespace Worker

def new : Worker :=
  { shared := .new
    loop := .idle
    tasks := fun _ => none
    handled := []
    responses := []
    cancellations := [] }

def cancelTask (worker : Worker) (label : Nat) : Worker :=
  { worker with
    tasks :=
      Function.update worker.tasks label
        ((worker.tasks label).map (fun task => { task with cancelled := true })) }

def cancelRun (worker : Worker) : Worker :=
  match worker.shared.run with
  | none => worker
  | some label => worker.cancelTask label

def cancelledBy (worker : Worker) (received : Received) (label : Nat) : List Cancellation :=
  match worker.tasks label with
  | none => []
  | some task =>
    if task.cancelled = true ∨ task.phase = .finished then
      []
    else
      [{ request := received.request, testRunId := task.testRunId }]

def active (worker : Worker) (label : Nat) : Bool :=
  match worker.tasks label with
  | none => false
  | some task => task.phase ≠ .finished

def executing (worker : Worker) : List Nat :=
  (worker.handled.map Received.label).filter worker.active

def receive (params : RunParams) (worker : Worker) (received : Received) : Worker :=
  { worker with
    loop := .handling received (received.opening params)
    tasks := Function.update worker.tasks received.label (received.spawned params)
    handled := worker.handled ++ [received] }

def advance (params : RunParams) (worker : Worker) (received : Received) : Stage → Option Worker
  | .beginning plan =>
    match worker.shared.run with
    | some _ =>
      some
        { worker with
          loop :=
            .handling received
              (.acknowledging .rejected "a run is already in progress") }
    | none =>
      some
        { worker with
          shared := { worker.shared with run := some received.label }
          loop := .handling received (.settingRunning (plan.virtualUsers % 2 ^ 32)) }
  | .settingRunning virtualUsers =>
    some
      { worker with
        shared := worker.shared.setState .running
        loop := .handling received (.storingVus virtualUsers) }
  | .storingVus virtualUsers =>
    some
      { worker with
        shared := { worker.shared with activeVus := virtualUsers }
        loop := .handling received (.acknowledging .acknowledged "") }
  | .stopTaking =>
    match worker.shared.run with
    | none => some { worker with loop := .handling received .stopStoring }
    | some label =>
      some
        { worker with
          shared := { worker.shared with run := none }
          loop := .handling received (.stopCancelling label) }
  | .stopCancelling label =>
    some
      { worker.cancelTask label with
        loop := .handling received (.stopJoining label)
        cancellations := worker.cancellations ++ worker.cancelledBy received label }
  | .stopJoining label =>
    match worker.tasks label with
    | none => none
    | some task =>
      if task.phase = .finished then
        some { worker with loop := .handling received .stopStoring }
      else
        none
  | .stopStoring =>
    some
      { worker with
        shared := { worker.shared with activeVus := 0 }
        loop := .handling received .settingReady }
  | .aborting =>
    some
      { worker.cancelRun with
        loop := .handling received .settingReady
        cancellations :=
          worker.cancellations ++ (worker.shared.run.map (worker.cancelledBy received)).getD [] }
  | .settingReady =>
    some
      { worker with
        shared := worker.shared.setState .ready
        loop := .handling received (.acknowledging .completed "") }
  | .acknowledging status errorMessage =>
    some
      { worker with
        loop := .idle
        responses :=
          worker.responses ++ [(received.label, received.response params status errorMessage)] }

def stepTask (params : RunParams) (worker : Worker) (label : Nat) (action : TaskAction) :
    Option Worker :=
  match worker.tasks label with
  | none => none
  | some task =>
    if worker.shared.admits action then
      match task.step params action with
      | none => none
      | some next =>
        some
          { worker with
            shared := worker.shared.afterTask action
            tasks := Function.update worker.tasks label (some next) }
    else
      none

def step (params : RunParams) (worker : Worker) : WorkerAction → Option Worker
  | .receive received =>
    match worker.loop with
    | .idle =>
      if received.label ∈ worker.handled.map Received.label then
        none
      else
        some (worker.receive params received)
    | .handling _ _ => none
  | .advance label =>
    match worker.loop with
    | .idle => none
    | .handling received stage =>
      if received.label = label then worker.advance params received stage else none
  | .task label action => worker.stepTask params label action
  | .heartbeatAbort => some worker.cancelRun

/-! ## What one step can do -/

/-- The effects of all enabled steps, one constructor per branch of the code. -/
inductive Move (params : RunParams) (worker : Worker) : WorkerAction → Worker → Prop where
  | receive (received : Received) (idle : worker.loop = .idle)
      (fresh : received.label ∉ worker.handled.map Received.label) :
      Move params worker (.receive received) (worker.receive params received)
  | beginOccupied (received : Received) (plan : ExecutionPlan) (occupant : Nat)
      (handling : worker.loop = .handling received (.beginning plan))
      (occupied : worker.shared.run = some occupant) :
      Move params worker (.advance received.label)
        { worker with
          loop :=
            .handling received (.acknowledging .rejected "a run is already in progress") }
  | beginFree (received : Received) (plan : ExecutionPlan)
      (handling : worker.loop = .handling received (.beginning plan))
      (free : worker.shared.run = none) :
      Move params worker (.advance received.label)
        { worker with
          shared := { worker.shared with run := some received.label }
          loop := .handling received (.settingRunning (plan.virtualUsers % 2 ^ 32)) }
  | setRunning (received : Received) (virtualUsers : Nat)
      (handling : worker.loop = .handling received (.settingRunning virtualUsers)) :
      Move params worker (.advance received.label)
        { worker with
          shared := worker.shared.setState .running
          loop := .handling received (.storingVus virtualUsers) }
  | storeVus (received : Received) (virtualUsers : Nat)
      (handling : worker.loop = .handling received (.storingVus virtualUsers)) :
      Move params worker (.advance received.label)
        { worker with
          shared := { worker.shared with activeVus := virtualUsers }
          loop := .handling received (.acknowledging .acknowledged "") }
  | stopFree (received : Received) (handling : worker.loop = .handling received .stopTaking)
      (free : worker.shared.run = none) :
      Move params worker (.advance received.label)
        { worker with loop := .handling received .stopStoring }
  | stopTake (received : Received) (label : Nat)
      (handling : worker.loop = .handling received .stopTaking)
      (occupied : worker.shared.run = some label) :
      Move params worker (.advance received.label)
        { worker with
          shared := { worker.shared with run := none }
          loop := .handling received (.stopCancelling label) }
  | stopCancel (received : Received) (label : Nat)
      (handling : worker.loop = .handling received (.stopCancelling label)) :
      Move params worker (.advance received.label)
        { worker.cancelTask label with
          loop := .handling received (.stopJoining label)
          cancellations := worker.cancellations ++ worker.cancelledBy received label }
  | stopJoin (received : Received) (label : Nat) (task : RunTask)
      (handling : worker.loop = .handling received (.stopJoining label))
      (found : worker.tasks label = some task) (finished : task.phase = .finished) :
      Move params worker (.advance received.label)
        { worker with loop := .handling received .stopStoring }
  | stopStore (received : Received) (handling : worker.loop = .handling received .stopStoring) :
      Move params worker (.advance received.label)
        { worker with
          shared := { worker.shared with activeVus := 0 }
          loop := .handling received .settingReady }
  | abort (received : Received) (handling : worker.loop = .handling received .aborting) :
      Move params worker (.advance received.label)
        { worker.cancelRun with
          loop := .handling received .settingReady
          cancellations :=
            worker.cancellations ++ (worker.shared.run.map (worker.cancelledBy received)).getD [] }
  | setReady (received : Received) (handling : worker.loop = .handling received .settingReady) :
      Move params worker (.advance received.label)
        { worker with
          shared := worker.shared.setState .ready
          loop := .handling received (.acknowledging .completed "") }
  | acknowledge (received : Received) (status : Proto.CommandStatus) (errorMessage : String)
      (handling : worker.loop = .handling received (.acknowledging status errorMessage)) :
      Move params worker (.advance received.label)
        { worker with
          loop := .idle
          responses :=
            worker.responses ++ [(received.label, received.response params status errorMessage)] }
  | task (label : Nat) (action : TaskAction) (task next : RunTask)
      (found : worker.tasks label = some task) (admitted : worker.shared.admits action = true)
      (taken : task.step params action = some next) :
      Move params worker (.task label action)
        { worker with
          shared := worker.shared.afterTask action
          tasks := Function.update worker.tasks label (some next) }
  | heartbeatAbort : Move params worker .heartbeatAbort worker.cancelRun

section Inversion

variable {params : RunParams} {worker next : Worker}

private theorem move_of_advance {received : Received} {stage : Stage}
    (handling : worker.loop = .handling received stage)
    (taken : worker.advance params received stage = some next) :
    Move params worker (.advance received.label) next := by
  cases stage with
  | beginning plan =>
    simp only [advance] at taken
    split at taken
    · rename_i occupant occupied
      cases taken
      exact .beginOccupied received plan occupant handling occupied
    · rename_i free
      cases taken
      exact .beginFree received plan handling free
  | settingRunning virtualUsers =>
    cases taken
    exact .setRunning received virtualUsers handling
  | storingVus virtualUsers =>
    cases taken
    exact .storeVus received virtualUsers handling
  | stopTaking =>
    simp only [advance] at taken
    split at taken
    · rename_i free
      cases taken
      exact .stopFree received handling free
    · rename_i label occupied
      cases taken
      exact .stopTake received label handling occupied
  | stopCancelling label =>
    cases taken
    exact .stopCancel received label handling
  | stopJoining label =>
    simp only [advance] at taken
    split at taken
    · cases taken
    · rename_i task found
      split at taken
      · rename_i finished
        cases taken
        exact .stopJoin received label task handling found finished
      · cases taken
  | stopStoring =>
    cases taken
    exact .stopStore received handling
  | aborting =>
    cases taken
    exact .abort received handling
  | settingReady =>
    cases taken
    exact .setReady received handling
  | acknowledging status errorMessage =>
    cases taken
    exact .acknowledge received status errorMessage handling

theorem step_advance {received : Received} {stage : Stage}
    (handling : worker.loop = .handling received stage) :
    worker.step params (.advance received.label) = worker.advance params received stage := by
  simp only [step, handling, if_true]

theorem advance_of_step {label : Nat} (taken : worker.step params (.advance label) = some next) :
    ∃ received stage,
      worker.loop = .handling received stage ∧ received.label = label ∧
        worker.advance params received stage = some next := by
  simp only [step] at taken
  split at taken
  · cases taken
  · rename_i received stage handling
    split at taken
    · rename_i same
      exact ⟨received, stage, handling, same, taken⟩
    · cases taken

theorem move_of_step {action : WorkerAction} (taken : worker.step params action = some next) :
    Move params worker action next := by
  cases action with
  | receive received =>
    simp only [step] at taken
    split at taken
    · rename_i idle
      split at taken
      · cases taken
      · rename_i fresh
        cases taken
        exact .receive received idle fresh
    · cases taken
  | advance =>
    obtain ⟨received, stage, handling, rfl, advanced⟩ := advance_of_step taken
    exact move_of_advance handling advanced
  | task label action =>
    simp only [step, stepTask] at taken
    split at taken
    · cases taken
    · rename_i task found
      split at taken
      · rename_i admitted
        split at taken
        · cases taken
        · rename_i moved taskTaken
          cases taken
          exact .task label action task moved found admitted taskTaken
      · cases taken
  | heartbeatAbort =>
    cases taken
    exact .heartbeatAbort

end Inversion

end Worker

end Strobengine.Distributed
