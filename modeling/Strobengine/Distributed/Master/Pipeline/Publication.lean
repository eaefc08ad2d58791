import Strobengine.Distributed.Master.Moves
import Strobengine.Foundations.Sequence

/-!
# The epochs that the pipeline publishes

`ingest` compares the epoch of a batch with the epoch published last and with nothing else, so the
published epochs are the arriving ones without immediate repetitions.
-/

namespace Strobengine.Distributed.Master

open Foundations Rust

namespace TelemetryPipeline

variable {Count : Type} [Counter Count]

/-- The snapshots that `run_pipeline` publishes for the commands it receives. -/
def runPipeline (pipeline : TelemetryPipeline Count) :
    List (PipelineCommand Count) → List (LiveSnapshot Count)
  | [] => []
  | .batch batch :: rest =>
    (pipeline.ingest batch).2.toList ++ (pipeline.ingest batch).1.runPipeline rest
  | .finalize :: rest => pipeline.runPipeline rest
  | .shutdown :: _ => []

def arrivals : List (PipelineCommand Count) → List Int
  | [] => []
  | .batch batch :: rest => epochOf batch.windowStartUnixMs :: arrivals rest
  | .finalize :: rest => arrivals rest
  | .shutdown :: _ => []

def publishes (task : PipelineTask Count) : List (LiveSnapshot Count) :=
  match task.queue with
  | .batch batch :: _ => (task.pipeline.ingest batch).2.toList
  | _ => []

theorem runPipeline_of_step {task next : PipelineTask Count} (stepped : task.step = some next) :
    task.pipeline.runPipeline task.queue =
      publishes task ++ next.pipeline.runPipeline next.queue := by
  cases MasterState.pipelineMove_of_step stepped with
  | ingest batch rest running queued => simp only [publishes, queued, runPipeline]
  | finalize rest running queued => simp only [publishes, queued, runPipeline, List.nil_append]
  | shutdown rest running queued => simp only [publishes, queued, runPipeline, List.nil_append]

variable (pipeline : TelemetryPipeline Count) (batch : Proto.MetricBatch Count)

@[simp]
theorem ingest_lastPublishedEpoch :
    (pipeline.ingest batch).1.lastPublishedEpoch =
      some (epochOf batch.windowStartUnixMs) := by
  rw [ingest_fst]

theorem epochs_ingest :
    (pipeline.ingest batch).2.toList.map LiveSnapshot.epochMs =
      if pipeline.lastPublishedEpoch = some (epochOf batch.windowStartUnixMs) then []
      else [epochOf batch.windowStartUnixMs] := by
  by_cases published : pipeline.lastPublishedEpoch = some (epochOf batch.windowStartUnixMs)
  · simp only [ingest, published, if_true]
    rfl
  · simp only [ingest, published, if_false]
    rfl

theorem epochs_runPipeline_of_published
    (pipeline : TelemetryPipeline Count) (commands : List (PipelineCommand Count))
    {last : Int} (published : pipeline.lastPublishedEpoch = some last) :
    last :: (pipeline.runPipeline commands).map LiveSnapshot.epochMs =
      (arrivals commands).destutter' (· ≠ ·) last := by
  induction commands generalizing pipeline last with
  | nil => rfl
  | cons command rest ih =>
    cases command with
    | batch batch =>
      have later := ih (pipeline.ingest batch).1 (ingest_lastPublishedEpoch pipeline batch)
      rw [runPipeline, arrivals, List.map_append, epochs_ingest, published]
      by_cases same : last = epochOf batch.windowStartUnixMs
      · rw [List.destutter'_cons_neg _ (not_not_intro same), if_pos (congrArg some same), same]
        exact later
      · have other : ¬some last = some (epochOf batch.windowStartUnixMs) :=
          fun equal => same (Option.some.inj equal)
        rw [List.destutter'_cons_pos _ same, if_neg other, ← later]
        rfl
    | finalize => exact ih pipeline published
    | shutdown => rfl

theorem epochs_runPipeline_of_unpublished
    (pipeline : TelemetryPipeline Count) (commands : List (PipelineCommand Count))
    (unpublished : pipeline.lastPublishedEpoch = none) :
    (pipeline.runPipeline commands).map LiveSnapshot.epochMs =
      (arrivals commands).destutter (· ≠ ·) := by
  induction commands with
  | nil => rfl
  | cons command rest ih =>
    cases command with
    | batch batch =>
      rw [runPipeline, arrivals, List.map_append, epochs_ingest, unpublished,
        List.destutter_cons',
        ← epochs_runPipeline_of_published _ rest
          (ingest_lastPublishedEpoch pipeline batch)]
      rfl
    | finalize => exact ih
    | shutdown => rfl

/-- The published epochs increase strictly exactly when batches never arrive behind a
batch of a later epoch. -/
theorem published_epochs_increase_iff (runId : String) (bucketCount : Nat) (windowEpochs : Int)
    (commands : List (PipelineCommand Count)) :
    (((new runId bucketCount windowEpochs).runPipeline commands).map
        LiveSnapshot.epochMs).Pairwise (· < ·) ↔
      (arrivals commands).Pairwise (· ≤ ·) := by
  rw [epochs_runPipeline_of_unpublished _ _ rfl, ← List.isChain_iff_pairwise,
    ← List.isChain_iff_pairwise]
  cases arrivals commands with
  | nil => simp
  | cons first rest => exact isChain_lt_destutter'_iff first rest

def emptyWindow (workerId : String) (start : Int) : Proto.MetricBatch Nat :=
  { workerId
    testRunId := "run"
    batchId := ""
    windowStartUnixMs := start
    windowDurationMs := 1000
    totalRequests := 0
    successCount := 0
    failureCount := 0
    bytesReceived := 0
    bytesSent := 0
    activeVus := 1
    latency := none
    errors := []
    requestsPerSecond := 0 }

def lateWorker : List (PipelineCommand Nat) :=
  [.batch (emptyWindow "a" 2000), .batch (emptyWindow "b" 1000), .batch (emptyWindow "a" 2000)]

/-- A late batch takes the published epochs back, and the next batch on time repeats
one. -/
theorem published_epochs_of_late_worker :
    ((new "run" 10 1).runPipeline lateWorker).map LiveSnapshot.epochMs = [2000, 1000, 2000] ∧
      ¬(((new "run" 10 1).runPipeline lateWorker).map
        LiveSnapshot.epochMs).Pairwise (· < ·) := by
  decide +kernel

end TelemetryPipeline

end Strobengine.Distributed.Master
