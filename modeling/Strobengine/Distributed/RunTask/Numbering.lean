import Strobengine.Distributed.RunTask.Delivery

/-!
# The batches on the wire

A batch that an ended upload refuses keeps its number, but nothing is uploaded after it.
-/

namespace Strobengine.Distributed.RunTask

open Foundations

variable {params : RunParams} {task next : RunTask} {action : TaskAction}

def label (batch : Proto.MetricBatch Nat) : String × String × String :=
  (batch.workerId, batch.testRunId, batch.batchId)

def labels (workerId testRunId : String) (count : Nat) : List (String × String × String) :=
  (List.range count).map (fun number => (workerId, testRunId, toString number))

/-- While the upload goes on, nothing that was handed to it is lost and the numbers go on. -/
structure Continuous (workerId : String) (task : RunTask) : Prop where
  queued : task.uploaded ++ task.batches = task.handed
  numbered :
    (task.handed ++ task.phase.offered).map label =
      labels workerId task.testRunId task.collector.batchSeq
  collector : task.collector.workerId = workerId ∧ task.collector.testRunId = task.testRunId

structure Numbered (workerId : String) (task : RunTask) : Prop where
  unstarted : task.phase = .spawned → task.handed = [] ∧ task.batches = []
  handed : task.handed.map label = labels workerId task.testRunId task.handed.length
  uploaded : task.uploaded <+: task.handed
  streaming : task.uploader = .streaming → task.Continuous workerId

variable {workerId : String}

theorem Continuous.of_taken (continuous : task.Continuous workerId)
    (offering : task.phase.offered = []) {now : Int} {batch : Proto.MetricBatch Nat}
    {collector : WindowedCollector}
    (taken : task.collector.takeBatch params.hdr now = some (batch, collector)) {phase : Phase}
    (offered : phase.offered = [batch]) :
    Continuous workerId { task with phase, collector } := by
  obtain ⟨queued, numbered, named⟩ := continuous
  rw [offering, List.append_nil] at numbered
  unfold WindowedCollector.takeBatch at taken
  split at taken <;> cases taken
  refine ⟨queued, ?_, named⟩
  rw [offered, List.map_append, numbered]
  simp [labels, List.range_succ, label, WindowedCollector.currentBatch,
    WindowedCollector.nextWindow, named]

theorem Numbered.of_accepted (numbered : task.Numbered workerId)
    (streaming : task.uploader = .streaming) {batch : Proto.MetricBatch Nat}
    (offering : task.phase.offered = [batch]) {phase : Phase} (begun : phase ≠ .spawned)
    (offered : phase.offered = []) :
    Numbered workerId
      { task with
        phase
        batches := task.batches ++ [batch]
        handed := task.handed ++ [batch] } := by
  obtain ⟨queued, numbers, named⟩ := numbered.streaming streaming
  rw [offering] at numbers
  have count : (task.handed ++ [batch]).length = task.collector.batchSeq := by
    simpa [labels] using congrArg List.length numbers
  refine ⟨fun spawned => absurd spawned begun, ?_, ?_, fun _ => ⟨?_, ?_, named⟩⟩
  · rw [count]
    exact numbers
  · exact numbered.uploaded.trans (List.prefix_append _ _)
  · rw [← List.append_assoc, queued]
  · rw [offered, List.append_nil]
    exact numbers

theorem Numbered.of_move (numbered : task.Numbered params.workerId)
    (move : Move params task action next) : next.Numbered params.workerId := by
  have streams := numbered.streaming
  have started := numbered.unstarted
  cases move with
  | tickBatch now batch collector collecting taken =>
    exact ⟨by simp, numbered.handed, numbered.uploaded, fun streaming =>
      (streams streaming).of_taken (by rw [collecting]; rfl) taken rfl⟩
  | flushBatch now batch collector flushing taken =>
    exact ⟨by simp, numbered.handed, numbered.uploaded, fun streaming =>
      (streams streaming).of_taken (by rw [flushing]; rfl) taken rfl⟩
  | batchAccepted batch sending streaming =>
    exact numbered.of_accepted streaming (by rw [sending]; rfl) (by simp) rfl
  | finalAccepted batch sending streaming =>
    exact numbered.of_accepted streaming (by rw [sending]; rfl) (by simp) rfl
  | batchRefused _ _ ended | finalRefused _ _ ended =>
    exact ⟨by simp, numbered.handed, numbered.uploaded, fun streaming => absurd streaming ended⟩
  | upload batch rest streaming queued =>
    have continuous := streams streaming
    have moved : (task.uploaded ++ [batch]) ++ rest = task.handed := by
      rw [← continuous.queued, queued, List.append_assoc]
      rfl
    refine ⟨fun spawned => ?_, numbered.handed, ⟨rest, moved⟩, fun _ =>
      ⟨moved, continuous.numbered, continuous.collector⟩⟩
    simp [(started spawned).2] at queued
  | enter activeVus now spawned =>
    obtain ⟨none, empty⟩ := started spawned
    have unsent : task.uploaded = [] := List.prefix_nil.mp (none ▸ numbered.uploaded)
    refine ⟨by simp, numbered.handed, numbered.uploaded, fun _ => ⟨?_, ?_, rfl, rfl⟩⟩
    · simp [none, empty, unsent]
    · simp only [none]
      rfl
  | acknowledge | uploadFail =>
    refine ⟨fun spawned => ⟨(started spawned).1, ?_⟩, numbered.handed, numbered.uploaded, by simp⟩
    first | exact (started spawned).2 | rfl
  | _ =>
    -- nothing is taken, handed on or uploaded
    refine ⟨?_, numbered.handed, numbered.uploaded, fun streaming =>
      ⟨(streams streaming).queued, ?_, (streams streaming).collector⟩⟩
    · first | exact started | simp
    · have before := (streams streaming).numbered
      first | exact before | simpa [Phase.offered, *] using before

theorem numbered_spawn (params : RunParams) (plan : ExecutionPlan) (testRunId : String) :
    (spawn params plan testRunId).Numbered params.workerId :=
  ⟨fun _ => ⟨rfl, rfl⟩, rfl, List.prefix_refl _, nofun⟩

/-- Wherever a run and its upload are stopped, what was uploaded carries the names of the worker
and of the run and is numbered from zero, without a gap, a repetition or a change of order. -/
theorem uploaded_numbered {plan : ExecutionPlan} {testRunId : String}
    (reached : Reaches (step params) unguarded (spawn params plan testRunId) task) :
    task.uploaded.map label = labels params.workerId testRunId task.uploaded.length := by
  have numbered : task.Numbered params.workerId ∧ task.testRunId = testRunId := by
    apply reached.invariant (fun task =>
      task.Numbered params.workerId ∧ task.testRunId = testRunId)
    · rintro task action next ⟨numbered, named⟩ _ taken
      have move := move_of_step taken
      exact ⟨numbered.of_move move, by cases move <;> exact named⟩
    · exact ⟨numbered_spawn params plan testRunId, rfl⟩
  obtain ⟨numbered, named⟩ := numbered
  obtain ⟨rest, handed⟩ := numbered.uploaded
  have all := numbered.handed
  rw [← handed, named, List.map_append] at all
  have first := congrArg (List.take task.uploaded.length) all
  simpa [labels, List.take_range, ← List.map_take] using first

def oneBatch (now : Int) : List TaskAction :=
  [.user 0 .check, .user 0 (.respond { latencyMicros := 1000 }), .user 0 .send,
    .orchestrator .receiveMetric, .orchestrator (.tick now), .orchestrator .sendBatch]

/-- The upload fails behind the first of two batches. -/
theorem uploaded_numbered_sample :
    ∃ task,
      Reaches (step .sample) unguarded (spawn .sample .sample "run") task ∧
        task.handed.length = 2 ∧
          task.uploaded.map label = [(RunParams.sample.workerId, "run", "0")] := by
  obtain ⟨task, reached, two, one⟩ :
      ∃ task,
        Reaches (step .sample) unguarded (spawn .sample .sample "run") task ∧
          task.handed.length = 2 ∧ task.uploaded.length = 1 :=
    Reaches.exists_of_executeChecked
      ([TaskAction.orchestrator (.enter 1 0), .launcher (.buildEngine true),
          .launcher .spawnUser, .user 0 .start] ++ oneBatch 1000 ++ oneBatch 2000 ++
        [.uploader .upload, .uploader .fail])
      (by decide +kernel)
  refine ⟨task, reached, two, ?_⟩
  rw [uploaded_numbered reached, one]
  rfl

end Strobengine.Distributed.RunTask
