import Strobengine.Distributed.Master.Pipeline
import Strobengine.Distributed.Master.Registry
import Strobengine.Foundations.Execution

/-!
# Runs on the master

The state shared by the gRPC handlers and the run controller, and the parties that work on it. No
party holds the lock of the active run across an await point, so every access to it is one step.
Calls, streams, pipelines and channels are numbered in the order of their creation.
-/

namespace Strobengine.Distributed.Master

open Rust Foundations
open Proto (MetricBatch CommandRequest TestConfiguration CommandResponse)

structure MasterParams where
  histogramBucketCount : Nat
  windowSecs : Nat
  deriving DecidableEq, Repr

/-- A run currently in progress; `pipeline` is the pipeline task it was installed with. -/
structure ActiveRun where
  runId : String
  startCommandId : String
  allocated : List String
  pipeline : Nat
  acked : Finset String
  telemetryDone : Finset String
  deriving DecidableEq

/-- A `WatchCommands` stream: the commands sent on it, and whether the worker still
reads it. -/
structure CommandChannel where
  worker : String
  sent : List CommandRequest
  receiverOpen : Bool
  deriving DecidableEq, Repr

inductive PipelineCommand (Count : Type) where
  | batch (batch : MetricBatch Count)
  | finalize
  | shutdown

/-- A pipeline task with its unbounded queue. `reply` is the report sent back for a
`finalize`, `ingested` is history. -/
structure PipelineTask (Count : Type) where
  pipeline : TelemetryPipeline Count
  queue : List (PipelineCommand Count)
  running : Bool
  reply : Option (GlobalReport Count)
  ingested : List (MetricBatch Count)

namespace PipelineTask

variable {Count : Type} [Counter Count]

def spawn (runId : String) (bucketCount : Nat) (windowEpochs : Int) : PipelineTask Count :=
  { pipeline := .new runId bucketCount windowEpochs
    queue := []
    running := true
    reply := none
    ingested := [] }

omit [Counter Count] in
def send (task : PipelineTask Count) (command : PipelineCommand Count) : PipelineTask Count :=
  if task.running then { task with queue := task.queue ++ [command] } else task

section Send

omit [Counter Count]

variable (task : PipelineTask Count) (command : PipelineCommand Count)

@[simp]
theorem send_pipeline : (task.send command).pipeline = task.pipeline := by
  unfold send
  split <;> rfl

@[simp]
theorem send_reply : (task.send command).reply = task.reply := by
  unfold send
  split <;> rfl

end Send

def step (task : PipelineTask Count) : Option (PipelineTask Count) :=
  if task.running then
    match task.queue with
    | [] => none
    | .batch batch :: rest =>
      some
        { task with
          pipeline := (task.pipeline.ingest batch).1
          queue := rest
          ingested := task.ingested ++ [batch] }
    | .finalize :: rest => some { task with queue := rest, reply := some task.pipeline.finalize }
    | .shutdown :: _ => some { task with queue := [], running := false }
  else
    none

end PipelineTask

/-! ## Calls and handlers -/

/-- Why the wait loop of `start_run` was left. -/
inductive WaitExit where
  | complete
  | disappeared
  | deadline
  deriving DecidableEq, Repr

inductive StartPhase (Count : Type) where
  | waitingBarrier
  | installing
  | broadcasting (pending : List String) (delivered : Nat)
  | sendingStart (sender : Option Nat) (worker : String) (pending : List String)
      (delivered : Nat)
  | abandoning
  | checking
  | pausing
  | taking
  | finalizing (run : ActiveRun)
  | awaitingReport (run : ActiveRun)
  | closing (run : ActiveRun) (report : GlobalReport Count)
  | returned (result : Except MasterError (GlobalReport Count))

/-- A `start_run` call. The pipeline it installed and the reason for leaving the wait
loop are history. -/
structure StartCall (Count : Type) where
  config : TestConfiguration
  expected : Nat
  allocated : List String
  installed : Option Nat
  waitExit : Option WaitExit
  phase : StartPhase Count

inductive AbortCall where
  | taking
  | shutting (run : ActiveRun)
  | broadcasting (run : ActiveRun) (pending : List String)
  | returned (removed : Option ActiveRun)
  deriving DecidableEq

inductive StreamPhase (Count : Type) where
  | reading
  | ingesting (batch : MetricBatch Count)
  | forwarding (batch : MetricBatch Count) (pipeline : Option Nat)
  | marking
  | closed
  | failed

/-- The handler of a telemetry stream; `received` is history. -/
structure TelemetryStream (Count : Type) where
  workerId : String
  acceptedBatches : Nat
  acceptedRequests : Count
  lastBatchId : String
  phase : StreamPhase Count
  received : List (MetricBatch Count)

/-- A run taken out of the slot by a `start_run` call, and why the call had left its wait
loop; `exit` is `none` when no worker could be reached. -/
structure Removal where
  call : Nat
  exit : Option WaitExit
  run : ActiveRun
  deriving DecidableEq

/-- The state of the master; `removals` is history. -/
structure MasterState (Count : Type) where
  registry : Registry
  channels : List CommandChannel
  run : Option ActiveRun
  pipelines : List (PipelineTask Count)
  starts : List (StartCall Count)
  aborts : List AbortCall
  streams : List (TelemetryStream Count)
  removals : List Removal

/-- Steps of a `start_run` call; `timeout` is a deadline that has passed, `now` the wall
clock in Unix milliseconds. -/
inductive StartAction where
  | advance (now : Int)
  | timeout
  deriving DecidableEq, Repr

inductive StreamAction (Count : Type) where
  | receive (batch : MetricBatch Count)
  | lookup
  | forward
  | halfClose
  | fail
  | mark

inductive MasterAction (Count : Type) where
  | beginStart (config : TestConfiguration) (expected : Nat)
  | start (call : Nat) (action : StartAction)
  | beginAbort
  | abort (call : Nat)
  | openStream
  | stream (stream : Nat) (action : StreamAction Count)
  | pipeline (index : Nat)
  | register (request : Proto.RegisterWorkerRequest) (now : Nat)
  | heartbeat (workerId : String) (state : Proto.WorkerState) (activeVus : Nat)
      (testRunId : String) (now : Nat)
  | watchCommands (workerId : String)
  | closeCommands (channel : Nat)
  | acknowledge (response : CommandResponse)
  | sweep (now timeout : Nat)

def MasterAction.registryHandler {Count : Type} : MasterAction Count → Bool
  | .register _ _ => true
  | .heartbeat _ _ _ _ _ => true
  | .watchCommands _ => true
  | .sweep _ _ => true
  | _ => false

/-! ## A small cluster -/

def MasterParams.sample : MasterParams :=
  { histogramBucketCount := 3
    windowSecs := 1 }

def sampleConfig (testRunId : String) : TestConfiguration :=
  { testRunId
    targets := [⟨"http://target/"⟩]
    duration := some { seconds := 1, nanos := 0 }
    virtualUsers := 1 }

def sampleBatch (workerId testRunId : String) : MetricBatch Nat :=
  { workerId
    testRunId
    batchId := "1"
    windowStartUnixMs := 1000
    windowDurationMs := 1000
    totalRequests := 2
    successCount := 1
    failureCount := 1
    bytesReceived := 5
    bytesSent := 0
    activeVus := 1
    latency := none
    errors := []
    requestsPerSecond := 2 }

namespace MasterAction

variable {Count : Type}

def enrol (workerId : String) : List (MasterAction Count) :=
  [.register { workerId, maxConcurrencyVus := 1 } 0,
    .heartbeat workerId .ready 0 "" 0, .watchCommands workerId]

def advance (call count : Nat) : List (MasterAction Count) :=
  List.replicate count (.start call (.advance 0))

def carry (stream : Nat) (batch : MetricBatch Count) : List (MasterAction Count) :=
  [.stream stream (.receive batch), .stream stream .lookup, .stream stream .forward]

end MasterAction

/-- The run id: the configured one, or one made from the time when that is blank. -/
def resolveRunId (config : TestConfiguration) (now : Int) : String :=
  if Rust.trim config.testRunId = "" then "run-" ++ toString now else config.testRunId

def startCommandId (runId : String) : String :=
  "cmd-" ++ runId ++ "-start"

def startCommand (config : TestConfiguration) : CommandRequest :=
  { command := .start
    commandId := startCommandId config.testRunId
    testRunId := config.testRunId
    config := some config }

def abortCommand (runId : String) : CommandRequest :=
  { command := .abort
    commandId := "cmd-" ++ runId ++ "-abort"
    testRunId := runId }

def deliver (channels : List CommandChannel) (sender : Option Nat)
    (command : CommandRequest) : Option (List CommandChannel) :=
  match sender with
  | none => none
  | some index =>
    match channels[index]? with
    | none => none
    | some channel =>
      if channel.receiverOpen then
        some (channels.set index { channel with sent := channel.sent ++ [command] })
      else
        none

theorem deliver_of_open {channels : List CommandChannel} {index : Nat} {channel : CommandChannel}
    (found : channels[index]? = some channel) (receiving : channel.receiverOpen = true)
    (command : CommandRequest) :
    deliver channels (some index) command =
      some (channels.set index { channel with sent := channel.sent ++ [command] }) := by
  simp only [deliver, found, receiving, if_true]

theorem exists_of_deliver {channels after : List CommandChannel} {sender : Option Nat}
    {command : CommandRequest} (sent : deliver channels sender command = some after) :
    ∃ index channel,
      sender = some index ∧ channels[index]? = some channel ∧
        after = channels.set index { channel with sent := channel.sent ++ [command] } := by
  unfold deliver at sent
  split at sent
  · cases sent
  · rename_i index
    split at sent
    · cases sent
    · rename_i channel found
      split at sent
      · cases sent
        exact ⟨index, channel, rfl, found, rfl⟩
      · cases sent

namespace MasterState

variable {Count : Type} [Counter Count]

def new : MasterState Count :=
  { registry := .new
    channels := []
    run := none
    pipelines := []
    starts := []
    aborts := []
    streams := []
    removals := [] }

section Setters

omit [Counter Count]

def setStart (state : MasterState Count) (index : Nat) (call : StartCall Count) :
    MasterState Count :=
  { state with starts := state.starts.set index call }

def setAbort (state : MasterState Count) (index : Nat) (call : AbortCall) : MasterState Count :=
  { state with aborts := state.aborts.set index call }

def setStream (state : MasterState Count) (index : Nat) (stream : TelemetryStream Count) :
    MasterState Count :=
  { state with streams := state.streams.set index stream }

def sendPipeline (state : MasterState Count) (index : Nat) (command : PipelineCommand Count) :
    MasterState Count :=
  { state with
    pipelines :=
      match state.pipelines[index]? with
      | none => state.pipelines
      | some task => state.pipelines.set index (task.send command) }

theorem getElem?_sendPipeline
    (state : MasterState Count) (index position : Nat) (command : PipelineCommand Count) :
    (state.sendPipeline index command).pipelines[position]? =
      (state.pipelines[position]?).map (fun task =>
        if index = position then task.send command else task) := by
  unfold sendPipeline
  by_cases same : index = position
  · subst same
    cases found : state.pipelines[index]? with
    | none => simp [found]
    | some => simp [(List.getElem?_eq_some_iff.mp found).1]
  · cases found : state.pipelines[index]? with
    | none | some => simp [same]

def takeRun (state : MasterState Count) (index : Nat) (exit : Option WaitExit) :
    MasterState Count :=
  { state with
    run := none
    removals := state.removals ++ (state.run.map (Removal.mk index exit)).toList }

end Setters

def install (params : MasterParams) (state : MasterState Count) (index : Nat)
    (call : StartCall Count) (runId : String) : MasterState Count :=
  { state with
    run :=
      some
        { runId
          startCommandId := startCommandId runId
          allocated := call.allocated
          pipeline := state.pipelines.length
          acked := ∅
          telemetryDone := ∅ }
    pipelines :=
      state.pipelines ++ [.spawn runId params.histogramBucketCount (max params.windowSecs 1 : Nat)]
    starts :=
      state.starts.set index
        { call with
          config := { call.config with testRunId := runId }
          installed := some state.pipelines.length
          phase := .broadcasting call.allocated 0 } }

omit [Counter Count] in
def failStart (state : MasterState Count) (index : Nat) (call : StartCall Count)
    (error : MasterError) : MasterState Count :=
  state.setStart index { call with phase := .returned (.error error) }

def stepStart (params : MasterParams) (state : MasterState Count) (index : Nat)
    (call : StartCall Count) (action : StartAction) : Option (MasterState Count) :=
  match call.phase, action with
  | .waitingBarrier, .advance _ =>
    match state.registry.allocate call.expected with
    | none => some state
    | some [] => some (state.failStart index call (.run "no workers available"))
    | some allocated =>
      some
        (state.setStart index
          { call with allocated, phase := .installing })
  | .waitingBarrier, .timeout =>
    match state.registry.allocate call.expected with
    | none =>
      some
        (state.failStart index call
          (.barrierTimeout (max call.expected 1) state.registry.readyWorkers.length))
    | some _ => none
  | .installing, .advance now =>
    match state.run with
    | some _ => some (state.failStart index call (.run "a run is already active"))
    | none => some (state.install params index call (resolveRunId call.config now))
  | .broadcasting (worker :: pending) delivered, .advance _ =>
    some
      (state.setStart index
        { call with
          phase :=
            .sendingStart (state.registry.commandSender worker) worker pending
              delivered })
  | .broadcasting [] delivered, .advance _ =>
    some
      (state.setStart index
        { call with phase := if delivered = 0 then .abandoning else .checking })
  | .sendingStart sender _ pending delivered, .advance _ =>
    match deliver state.channels sender (startCommand call.config) with
    | some channels =>
      some
        ({ state with channels }.setStart index
          { call with phase := .broadcasting pending (delivered + 1) })
    | none =>
      some
        (state.setStart index { call with phase := .broadcasting pending delivered })
  | .abandoning, .advance _ =>
    some
      ((state.takeRun index none).failStart index call
        (.run "no worker received the START command"))
  | .checking, .advance _ =>
    match state.run with
    | none =>
      some
        (state.setStart index
          { call with waitExit := some .disappeared, phase := .taking })
    | some run =>
      if run.allocated.length ≤ run.telemetryDone.card then
        some
          (state.setStart index
            { call with waitExit := some .complete, phase := .taking })
      else
        some (state.setStart index { call with phase := .pausing })
  | .pausing, .advance _ => some (state.setStart index { call with phase := .checking })
  | .pausing, .timeout =>
    some
      (state.setStart index { call with waitExit := some .deadline, phase := .taking })
  | .taking, .advance _ =>
    match state.run with
    | none => some (state.failStart index call (.run "active run disappeared"))
    | some run =>
      some
        ((state.takeRun index call.waitExit).setStart index
          { call with phase := .finalizing run })
  | .finalizing run, .advance _ =>
    match state.pipelines[run.pipeline]? with
    | none => none
    | some task =>
      if task.running then
        some
          ((state.sendPipeline run.pipeline .finalize).setStart index
            { call with phase := .awaitingReport run })
      else
        some (state.failStart index call (.run "telemetry pipeline stopped"))
  | .awaitingReport run, .advance _ =>
    match state.pipelines[run.pipeline]? with
    | none => none
    | some task =>
      match task.reply with
      | some report => some (state.setStart index { call with phase := .closing run report })
      | none =>
        if task.running then
          none
        else
          some (state.failStart index call (.run "telemetry pipeline stopped"))
  | .closing run report, .advance _ =>
    some
      ((state.sendPipeline run.pipeline .shutdown).setStart index
        { call with phase := .returned (.ok report) })
  | _, _ => none

section Handlers

omit [Counter Count]

def stepAbort (state : MasterState Count) (index : Nat) : AbortCall → Option (MasterState Count)
  | .taking =>
    match state.run with
    | none => some (state.setAbort index (.returned none))
    | some run => some ({ state with run := none }.setAbort index (.shutting run))
  | .shutting run =>
    some
      ((state.sendPipeline run.pipeline .shutdown).setAbort index
        (.broadcasting run run.allocated))
  | .broadcasting run (worker :: pending) =>
    match
      deliver state.channels (state.registry.commandSender worker)
        (abortCommand run.runId) with
    | some channels =>
      some ({ state with channels }.setAbort index (.broadcasting run pending))
    | none => some (state.setAbort index (.broadcasting run pending))
  | .broadcasting run [] => some (state.setAbort index (.returned (some run)))
  | .returned _ => none

def markTelemetryDone (state : MasterState Count) (workerId : String) : MasterState Count :=
  { state with
    run :=
      if workerId = "" then
        state.run
      else
        state.run.map (fun run =>
          { run with telemetryDone := insert workerId run.telemetryDone }) }

def recordAck (state : MasterState Count) (response : CommandResponse) : MasterState Count :=
  { state with
    run :=
      state.run.map (fun run =>
        if response.commandId = run.startCommandId then
          { run with acked := insert response.workerId run.acked }
        else
          run) }

/-- The lookup of `ingest_batch`: the pipeline of the active run, if the batch is of
that run. -/
def ingestTarget (state : MasterState Count) (batch : MetricBatch Count) : Option Nat :=
  (state.run.filter (fun run => batch.testRunId = run.runId)).map ActiveRun.pipeline

end Handlers

def stepStream (state : MasterState Count) (index : Nat) (stream : TelemetryStream Count)
    (action : StreamAction Count) : Option (MasterState Count) :=
  match stream.phase, action with
  | .reading, .receive batch =>
    some
      (state.setStream index
        { workerId := if batch.workerId = "" then stream.workerId else batch.workerId
          acceptedBatches := stream.acceptedBatches + 1
          acceptedRequests := stream.acceptedRequests + batch.totalRequests
          lastBatchId := batch.batchId
          phase := .ingesting batch
          received := stream.received ++ [batch] })
  | .ingesting batch, .lookup =>
    some
      (state.setStream index
        { stream with phase := .forwarding batch (state.ingestTarget batch) })
  | .forwarding batch target, .forward =>
    match target with
    | none => some (state.setStream index { stream with phase := .reading })
    | some pipeline =>
      some
        ((state.sendPipeline pipeline (.batch batch)).setStream index
          { stream with phase := .reading })
  | .reading, .halfClose => some (state.setStream index { stream with phase := .marking })
  | .reading, .fail => some (state.setStream index { stream with phase := .failed })
  | .marking, .mark =>
    some
      ((state.markTelemetryDone stream.workerId).setStream index
        { stream with phase := .closed })
  | _, _ => none

def step (params : MasterParams) (state : MasterState Count) :
    MasterAction Count → Option (MasterState Count)
  | .beginStart config expected =>
    some
      { state with
        starts :=
          state.starts ++
            [{ config
               expected
               allocated := []
               installed := none
               waitExit := none
               phase := .waitingBarrier }] }
  | .start index action =>
    match state.starts[index]? with
    | none => none
    | some call => state.stepStart params index call action
  | .beginAbort => some { state with aborts := state.aborts ++ [.taking] }
  | .abort index =>
    match state.aborts[index]? with
    | none => none
    | some call => state.stepAbort index call
  | .openStream =>
    some
      { state with
        streams :=
          state.streams ++
            [{ workerId := ""
               acceptedBatches := 0
               acceptedRequests := 0
               lastBatchId := ""
               phase := .reading
               received := [] }] }
  | .stream index action =>
    match state.streams[index]? with
    | none => none
    | some stream => state.stepStream index stream action
  | .pipeline index =>
    match state.pipelines[index]? with
    | none => none
    | some task =>
      match task.step with
      | none => none
      | some next => some { state with pipelines := state.pipelines.set index next }
  | .register request now =>
    match state.registry.register request now with
    | .error _ => some state
    | .ok registry => some { state with registry }
  | .heartbeat workerId reported activeVus testRunId now =>
    match state.registry.recordHeartbeat workerId reported activeVus testRunId now with
    | .error _ => some state
    | .ok registry => some { state with registry }
  | .watchCommands workerId =>
    match state.registry.attachCommands workerId state.channels.length with
    | .error _ => some state
    | .ok registry =>
      some
        { state with
          registry
          channels :=
            state.channels ++ [{ worker := workerId, sent := [], receiverOpen := true }] }
  | .closeCommands index =>
    match state.channels[index]? with
    | none => none
    | some channel =>
      some
        { state with
          channels := state.channels.set index { channel with receiverOpen := false } }
  | .acknowledge response => some (state.recordAck response)
  | .sweep now timeout => some { state with registry := state.registry.sweep now timeout }

end MasterState

end Strobengine.Distributed.Master
