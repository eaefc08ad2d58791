import Strobengine.Distributed.Master.Run

/-!
# What one step of the master can do

The effects of all enabled steps, one constructor per branch of the code, and the fact
that every enabled step is one of them.
-/

namespace Strobengine.Distributed.Master

open Rust

namespace MasterState

variable {Count : Type} [Counter Count]

inductive StartMove
    (params : MasterParams) (state : MasterState Count) (index : Nat)
    (call : StartCall Count) : StartAction → MasterState Count → Prop where
  | waitOn (now : Int) (phase : call.phase = .waitingBarrier) :
      StartMove params state index call (.advance now) state
  | refuse (action : StartAction) (error : MasterError)
      (phase : call.phase = .waitingBarrier ∨ call.phase = .installing) :
      StartMove params state index call action (state.failStart index call error)
  | allocate (now : Int) (allocated : List String) (phase : call.phase = .waitingBarrier)
      (decided : state.registry.allocate call.expected = some allocated) :
      StartMove params state index call (.advance now)
        (state.setStart index { call with allocated, phase := .installing })
  | install (now : Int) (phase : call.phase = .installing) (free : state.run = none) :
      StartMove params state index call (.advance now)
        (state.install params index call (resolveRunId call.config now))
  | lookup (now : Int) (worker : String) (pending : List String) (delivered : Nat)
      (phase : call.phase = .broadcasting (worker :: pending) delivered) :
      StartMove params state index call (.advance now)
        (state.setStart index
          { call with
            phase :=
              .sendingStart (state.registry.commandSender worker) worker pending
                delivered })
  | send (now : Int) (sender : Option Nat) (worker : String) (pending : List String)
      (delivered : Nat) (channels : List CommandChannel)
      (phase : call.phase = .sendingStart sender worker pending delivered)
      (sent : deliver state.channels sender (startCommand call.config) = some channels) :
      StartMove params state index call (.advance now)
        ({ state with channels }.setStart index
          { call with phase := .broadcasting pending (delivered + 1) })
  | sendNone (now : Int) (sender : Option Nat) (worker : String) (pending : List String)
      (delivered : Nat) (phase : call.phase = .sendingStart sender worker pending delivered)
      (unsent : deliver state.channels sender (startCommand call.config) = none) :
      StartMove params state index call (.advance now)
        (state.setStart index { call with phase := .broadcasting pending delivered })
  | broadcastNone (now : Int) (phase : call.phase = .broadcasting [] 0) :
      StartMove params state index call (.advance now)
        (state.setStart index { call with phase := .abandoning })
  | broadcastDone (now : Int) (delivered : Nat) (phase : call.phase = .broadcasting [] delivered)
      (some_delivered : delivered ≠ 0) :
      StartMove params state index call (.advance now)
        (state.setStart index { call with phase := .checking })
  | abandon (now : Int) (phase : call.phase = .abandoning) :
      StartMove params state index call (.advance now)
        ((state.takeRun index none).failStart index call
          (.run "no worker received the START command"))
  | vanished (now : Int) (phase : call.phase = .checking) (free : state.run = none) :
      StartMove params state index call (.advance now)
        (state.setStart index
          { call with waitExit := some .disappeared, phase := .taking })
  | complete (now : Int) (run : ActiveRun) (phase : call.phase = .checking)
      (active : state.run = some run) (done : run.allocated.length ≤ run.telemetryDone.card) :
      StartMove params state index call (.advance now)
        (state.setStart index { call with waitExit := some .complete, phase := .taking })
  | pause (now : Int) (run : ActiveRun) (phase : call.phase = .checking)
      (active : state.run = some run) (undone : run.telemetryDone.card < run.allocated.length) :
      StartMove params state index call (.advance now)
        (state.setStart index { call with phase := .pausing })
  | wake (now : Int) (phase : call.phase = .pausing) :
      StartMove params state index call (.advance now)
        (state.setStart index { call with phase := .checking })
  | deadline (phase : call.phase = .pausing) :
      StartMove params state index call .timeout
        (state.setStart index { call with waitExit := some .deadline, phase := .taking })
  | takeNone (now : Int) (phase : call.phase = .taking) (free : state.run = none) :
      StartMove params state index call (.advance now)
        (state.failStart index call (.run "active run disappeared"))
  | take (now : Int) (run : ActiveRun) (phase : call.phase = .taking)
      (active : state.run = some run) :
      StartMove params state index call (.advance now)
        ((state.takeRun index call.waitExit).setStart index
          { call with phase := .finalizing run })
  | finalize (now : Int) (run : ActiveRun) (task : PipelineTask Count)
      (phase : call.phase = .finalizing run) (found : state.pipelines[run.pipeline]? = some task)
      (running : task.running = true) :
      StartMove params state index call (.advance now)
        ((state.sendPipeline run.pipeline .finalize).setStart index
          { call with phase := .awaitingReport run })
  | stopped (now : Int) (run : ActiveRun) (task : PipelineTask Count)
      (phase : call.phase = .finalizing run ∨ call.phase = .awaitingReport run)
      (found : state.pipelines[run.pipeline]? = some task) (halted : task.running = false) :
      StartMove params state index call (.advance now)
        (state.failStart index call (.run "telemetry pipeline stopped"))
  | reply (now : Int) (run : ActiveRun) (task : PipelineTask Count) (report : GlobalReport Count)
      (phase : call.phase = .awaitingReport run)
      (found : state.pipelines[run.pipeline]? = some task) (replied : task.reply = some report) :
      StartMove params state index call (.advance now)
        (state.setStart index { call with phase := .closing run report })
  | close (now : Int) (run : ActiveRun) (report : GlobalReport Count)
      (phase : call.phase = .closing run report) :
      StartMove params state index call (.advance now)
        ((state.sendPipeline run.pipeline .shutdown).setStart index
          { call with phase := .returned (.ok report) })

inductive AbortMove (state : MasterState Count) (index : Nat) :
    AbortCall → MasterState Count → Prop where
  | takeNone (free : state.run = none) :
      AbortMove state index .taking (state.setAbort index (.returned none))
  | take (run : ActiveRun) (active : state.run = some run) :
      AbortMove state index .taking ({ state with run := none }.setAbort index (.shutting run))
  | shut (run : ActiveRun) :
      AbortMove state index (.shutting run)
        ((state.sendPipeline run.pipeline .shutdown).setAbort index
          (.broadcasting run run.allocated))
  | send (run : ActiveRun) (worker : String) (pending : List String)
      (channels : List CommandChannel)
      (sent :
        deliver state.channels (state.registry.commandSender worker)
          (abortCommand run.runId) = some channels) :
      AbortMove state index (.broadcasting run (worker :: pending))
        ({ state with channels }.setAbort index (.broadcasting run pending))
  | sendNone (run : ActiveRun) (worker : String) (pending : List String)
      (unsent :
        deliver state.channels (state.registry.commandSender worker)
          (abortCommand run.runId) = none) :
      AbortMove state index (.broadcasting run (worker :: pending))
        (state.setAbort index (.broadcasting run pending))
  | finish (run : ActiveRun) :
      AbortMove state index (.broadcasting run [])
        (state.setAbort index (.returned (some run)))

inductive StreamMove
    (state : MasterState Count) (index : Nat) (stream : TelemetryStream Count) :
    StreamAction Count → MasterState Count → Prop where
  | receive (batch : Proto.MetricBatch Count) (phase : stream.phase = .reading) :
      StreamMove state index stream (.receive batch)
        (state.setStream index
          { workerId := if batch.workerId = "" then stream.workerId else batch.workerId
            acceptedBatches := stream.acceptedBatches + 1
            acceptedRequests := stream.acceptedRequests + batch.totalRequests
            lastBatchId := batch.batchId
            phase := .ingesting batch
            received := stream.received ++ [batch] })
  | lookup (batch : Proto.MetricBatch Count) (phase : stream.phase = .ingesting batch) :
      StreamMove state index stream .lookup
        (state.setStream index
          { stream with phase := .forwarding batch (state.ingestTarget batch) })
  | discard (batch : Proto.MetricBatch Count) (phase : stream.phase = .forwarding batch none) :
      StreamMove state index stream .forward
        (state.setStream index { stream with phase := .reading })
  | forward (batch : Proto.MetricBatch Count) (pipeline : Nat)
      (phase : stream.phase = .forwarding batch (some pipeline)) :
      StreamMove state index stream .forward
        ((state.sendPipeline pipeline (.batch batch)).setStream index
          { stream with phase := .reading })
  | halfClose (phase : stream.phase = .reading) :
      StreamMove state index stream .halfClose
        (state.setStream index { stream with phase := .marking })
  | fail (phase : stream.phase = .reading) :
      StreamMove state index stream .fail (state.setStream index { stream with phase := .failed })
  | mark (phase : stream.phase = .marking) :
      StreamMove state index stream .mark
        ((state.markTelemetryDone stream.workerId).setStream index
          { stream with phase := .closed })

inductive PipelineMove (task : PipelineTask Count) : PipelineTask Count → Prop where
  | ingest (batch : Proto.MetricBatch Count) (rest : List (PipelineCommand Count))
      (running : task.running = true) (queued : task.queue = .batch batch :: rest) :
      PipelineMove task
        { task with
          pipeline := (task.pipeline.ingest batch).1
          queue := rest
          ingested := task.ingested ++ [batch] }
  | finalize (rest : List (PipelineCommand Count)) (running : task.running = true)
      (queued : task.queue = .finalize :: rest) :
      PipelineMove task { task with queue := rest, reply := some task.pipeline.finalize }
  | shutdown (rest : List (PipelineCommand Count)) (running : task.running = true)
      (queued : task.queue = .shutdown :: rest) :
      PipelineMove task { task with queue := [], running := false }

/-- The moves of the master. `registry` is any handler that only works on the
registry. -/
inductive Move (params : MasterParams) (state : MasterState Count) :
    MasterAction Count → MasterState Count → Prop where
  | beginStart (config : Proto.TestConfiguration) (expected : Nat) :
      Move params state (.beginStart config expected)
        { state with
          starts :=
            state.starts ++
              [{ config
                 expected
                 allocated := []
                 installed := none
                 waitExit := none
                 phase := .waitingBarrier }] }
  | start (index : Nat) (action : StartAction) (call : StartCall Count) (next : MasterState Count)
      (found : state.starts[index]? = some call)
      (move : StartMove params state index call action next) :
      Move params state (.start index action) next
  | beginAbort : Move params state .beginAbort { state with aborts := state.aborts ++ [.taking] }
  | abort (index : Nat) (call : AbortCall) (next : MasterState Count)
      (found : state.aborts[index]? = some call) (move : AbortMove state index call next) :
      Move params state (.abort index) next
  | openStream :
      Move params state .openStream
        { state with
          streams :=
            state.streams ++
              [{ workerId := ""
                 acceptedBatches := 0
                 acceptedRequests := 0
                 lastBatchId := ""
                 phase := .reading
                 received := [] }] }
  | stream (index : Nat) (action : StreamAction Count) (stream : TelemetryStream Count)
      (next : MasterState Count) (found : state.streams[index]? = some stream)
      (move : StreamMove state index stream action next) :
      Move params state (.stream index action) next
  | pipeline (index : Nat) (task next : PipelineTask Count)
      (found : state.pipelines[index]? = some task) (move : PipelineMove task next) :
      Move params state (.pipeline index) { state with pipelines := state.pipelines.set index next }
  | registry (action : MasterAction Count) (registry : Registry)
      (handler : action.registryHandler = true) (kept : state.registry.KeepsSenders registry) :
      Move params state action { state with registry }
  | watchCommands (workerId : String) (registry : Registry)
      (attached : state.registry.attachCommands workerId state.channels.length = .ok registry) :
      Move params state (.watchCommands workerId)
        { state with
          registry
          channels :=
            state.channels ++ [{ worker := workerId, sent := [], receiverOpen := true }] }
  | closeCommands (index : Nat) (channel : CommandChannel)
      (found : state.channels[index]? = some channel) :
      Move params state (.closeCommands index)
        { state with
          channels := state.channels.set index { channel with receiverOpen := false } }
  | acknowledge (response : Proto.CommandResponse) :
      Move params state (.acknowledge response) (state.recordAck response)

section Inversion

variable {params : MasterParams} {state next : MasterState Count}

private theorem startMove_of_advance {index : Nat} {call : StartCall Count} {now : Int}
    (taken : state.stepStart params index call (.advance now) = some next) :
    StartMove params state index call (.advance now) next := by
  unfold stepStart at taken
  cases phase : call.phase with
  | waitingBarrier =>
    simp only [phase] at taken
    split at taken
    · cases taken
      exact .waitOn now phase
    · cases taken
      exact .refuse _ _ (Or.inl phase)
    · rename_i allocated _ decided
      cases taken
      exact .allocate now allocated phase decided
  | installing =>
    simp only [phase] at taken
    split at taken
    · cases taken
      exact .refuse _ _ (Or.inr phase)
    · rename_i free
      cases taken
      exact .install now phase free
  | broadcasting pending delivered =>
    cases pending with
    | cons worker pending =>
      simp only [phase] at taken
      cases taken
      exact .lookup now worker pending delivered phase
    | nil =>
      simp only [phase] at taken
      by_cases none_delivered : delivered = 0
      · subst none_delivered
        cases taken
        exact .broadcastNone now phase
      · rw [if_neg none_delivered] at taken
        cases taken
        exact .broadcastDone now delivered phase none_delivered
  | sendingStart sender worker pending delivered =>
    simp only [phase] at taken
    split at taken
    · rename_i channels sent
      cases taken
      exact .send now sender worker pending delivered channels phase sent
    · rename_i unsent
      cases taken
      exact .sendNone now sender worker pending delivered phase unsent
  | abandoning =>
    simp only [phase] at taken
    cases taken
    exact .abandon now phase
  | checking =>
    simp only [phase] at taken
    split at taken
    · rename_i free
      cases taken
      exact .vanished now phase free
    · rename_i run active
      split at taken
      · rename_i done
        cases taken
        exact .complete now run phase active done
      · rename_i undone
        cases taken
        exact .pause now run phase active (Nat.lt_of_not_le undone)
  | pausing =>
    simp only [phase] at taken
    cases taken
    exact .wake now phase
  | taking =>
    simp only [phase] at taken
    split at taken
    · rename_i free
      cases taken
      exact .takeNone now phase free
    · rename_i run active
      cases taken
      exact .take now run phase active
  | finalizing run =>
    simp only [phase] at taken
    split at taken
    · cases taken
    · rename_i task found
      split at taken
      · rename_i running
        cases taken
        exact .finalize now run task phase found running
      · rename_i halted
        cases taken
        exact .stopped now run task (Or.inl phase) found (Bool.eq_false_of_not_eq_true halted)
  | awaitingReport run =>
    simp only [phase] at taken
    split at taken
    · cases taken
    · rename_i task found
      split at taken
      · rename_i report replied
        cases taken
        exact .reply now run task report phase found replied
      · split at taken
        · cases taken
        · rename_i halted
          cases taken
          exact .stopped now run task (Or.inr phase) found (Bool.eq_false_of_not_eq_true halted)
  | closing run report =>
    simp only [phase] at taken
    cases taken
    exact .close now run report phase
  | returned =>
    simp only [phase] at taken
    cases taken

private theorem startMove_of_timeout {index : Nat} {call : StartCall Count}
    (taken : state.stepStart params index call .timeout = some next) :
    StartMove params state index call .timeout next := by
  unfold stepStart at taken
  cases phase : call.phase with
  | waitingBarrier =>
    simp only [phase] at taken
    split at taken
    · cases taken
      exact .refuse _ _ (Or.inl phase)
    · cases taken
  | pausing =>
    simp only [phase] at taken
    cases taken
    exact .deadline phase
  | _ => simp [phase] at taken

omit [Counter Count] in
private theorem abortMove_of_step {index : Nat} {call : AbortCall}
    (taken : state.stepAbort index call = some next) :
    AbortMove state index call next := by
  cases call with
  | taking =>
    simp only [stepAbort] at taken
    split at taken
    · rename_i free
      cases taken
      exact .takeNone free
    · rename_i run active
      cases taken
      exact .take run active
  | shutting run =>
    cases taken
    exact .shut run
  | broadcasting run pending =>
    cases pending with
    | nil =>
      cases taken
      exact .finish run
    | cons worker pending =>
      simp only [stepAbort] at taken
      split at taken
      · rename_i channels sent
        cases taken
        exact .send run worker pending channels sent
      · rename_i unsent
        cases taken
        exact .sendNone run worker pending unsent
  | returned => cases taken

private theorem streamMove_of_step {index : Nat} {stream : TelemetryStream Count}
    {action : StreamAction Count} (taken : state.stepStream index stream action = some next) :
    StreamMove state index stream action next := by
  unfold stepStream at taken
  split at taken
  · rename_i batch phase
    cases taken
    exact .receive batch phase
  · rename_i batch phase
    cases taken
    exact .lookup batch phase
  · rename_i batch target phase
    split at taken
    · cases taken
      exact .discard batch phase
    · rename_i pipeline
      cases taken
      exact .forward batch pipeline phase
  · rename_i phase
    cases taken
    exact .halfClose phase
  · rename_i phase
    cases taken
    exact .fail phase
  · rename_i phase
    cases taken
    exact .mark phase
  · cases taken

theorem pipelineMove_of_step {task moved : PipelineTask Count} (taken : task.step = some moved) :
    PipelineMove task moved := by
  unfold PipelineTask.step at taken
  split at taken
  · rename_i running
    split at taken
    · cases taken
    · rename_i batch rest queued
      cases taken
      exact .ingest batch rest running queued
    · rename_i rest queued
      cases taken
      exact .finalize rest running queued
    · rename_i rest queued
      cases taken
      exact .shutdown rest running queued
  · cases taken

theorem move_of_step {action : MasterAction Count} (taken : state.step params action = some next) :
    Move params state action next := by
  cases action with
  | beginStart config expected =>
    cases taken
    exact .beginStart config expected
  | start index action =>
    simp only [step] at taken
    split at taken
    · cases taken
    · rename_i call found
      cases action with
      | advance => exact .start index _ call next found (startMove_of_advance taken)
      | timeout => exact .start index _ call next found (startMove_of_timeout taken)
  | beginAbort =>
    cases taken
    exact .beginAbort
  | abort index =>
    simp only [step] at taken
    split at taken
    · cases taken
    · rename_i call found
      exact .abort index call next found (abortMove_of_step taken)
  | openStream =>
    cases taken
    exact .openStream
  | stream index action =>
    simp only [step] at taken
    split at taken
    · cases taken
    · rename_i stream found
      exact .stream index action stream next found (streamMove_of_step taken)
  | pipeline index =>
    simp only [step] at taken
    split at taken
    · cases taken
    · rename_i task found
      split at taken
      · cases taken
      · rename_i moved stepped
        cases taken
        exact .pipeline index task moved found (pipelineMove_of_step stepped)
  | register =>
    simp only [step] at taken
    split at taken
    · cases taken
      exact .registry _ _ rfl (Registry.KeepsSenders.refl _)
    · rename_i registry registered
      cases taken
      exact .registry _ registry rfl (Registry.keepsSenders_register registered)
  | heartbeat =>
    simp only [step] at taken
    split at taken
    · cases taken
      exact .registry _ _ rfl (Registry.KeepsSenders.refl _)
    · rename_i registry recorded
      cases taken
      exact .registry _ registry rfl (Registry.keepsSenders_recordHeartbeat recorded)
  | watchCommands workerId =>
    simp only [step] at taken
    split at taken
    · cases taken
      exact .registry _ _ rfl (Registry.KeepsSenders.refl _)
    · rename_i registry attached
      cases taken
      exact .watchCommands workerId registry attached
  | closeCommands index =>
    simp only [step] at taken
    split at taken
    · cases taken
    · rename_i channel found
      cases taken
      exact .closeCommands index channel found
  | acknowledge response =>
    cases taken
    exact .acknowledge response
  | sweep now timeout =>
    cases taken
    exact .registry _ _ rfl (Registry.keepsSenders_sweep _ now timeout)

end Inversion

end MasterState

end Strobengine.Distributed.Master
