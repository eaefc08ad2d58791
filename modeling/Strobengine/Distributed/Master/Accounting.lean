import Strobengine.Distributed.Master.Completion
import Mathlib.Algebra.BigOperators.Group.Multiset.Basic

/-!
# The final report counts every batch once

A batch that has arrived is in exactly one place: with the handler of its stream, in the queue of
the pipeline task, or merged into the pipeline. `finalize` is one more message in that queue, sent
only after every allocated worker has closed its stream; so nothing can come behind it.
-/

namespace Strobengine.Distributed.Master

open Rust Foundations
open Proto (MetricBatch)

variable {Count : Type} [Counter Count]

def amountOf
    (amount : MetricBatch Count → Count) (batches : Multiset (MetricBatch Count)) :
    Count :=
  (batches.map amount).sum

theorem amountOf_add_singleton (amount : MetricBatch Count → Count)
    (batches : Multiset (MetricBatch Count)) (batch : MetricBatch Count) :
    amountOf amount (batches + {batch}) = amountOf amount batches + amount batch := by
  simp only [amountOf, Multiset.map_add, Multiset.map_singleton, Multiset.sum_add,
    Multiset.sum_singleton]

structure GlobalReport.Counts
    (report : GlobalReport Count) (counted : Multiset (MetricBatch Count)) :
    Prop where
  batches : report.batches = counted.card
  totalRequests : report.totalRequests = amountOf MetricBatch.totalRequests counted
  successCount : report.successCount = amountOf MetricBatch.successCount counted
  failureCount : report.failureCount = amountOf MetricBatch.failureCount counted
  bytesReceived : report.bytesReceived = amountOf MetricBatch.bytesReceived counted

/-! ## The pipeline task -/

theorem counts_new (runId : String) (bucketCount : Nat) (windowEpochs : Int) :
    ((TelemetryPipeline.new runId bucketCount windowEpochs : TelemetryPipeline Count)
      ).finalize.Counts 0 :=
  ⟨rfl, rfl, rfl, rfl, rfl⟩

theorem counts_ingest
    {pipeline : TelemetryPipeline Count} {batches : Multiset (MetricBatch Count)}
    (counts : pipeline.finalize.Counts batches) (batch : MetricBatch Count) :
    (pipeline.ingest batch).1.finalize.Counts (batches + {batch}) := by
  refine ⟨?_, ?_, ?_, ?_, ?_⟩
  · rw [Multiset.card_add, Multiset.card_singleton, ← counts.batches]
    exact TelemetryPipeline.ingest_batches pipeline batch
  · rw [amountOf_add_singleton, ← counts.totalRequests]
    simp [TelemetryPipeline.finalize]
  · rw [amountOf_add_singleton, ← counts.successCount]
    simp [TelemetryPipeline.finalize]
  · rw [amountOf_add_singleton, ← counts.failureCount]
    simp [TelemetryPipeline.finalize]
  · rw [amountOf_add_singleton, ← counts.bytesReceived]
    simp [TelemetryPipeline.finalize]

namespace PipelineTask

structure Collects
    (task : PipelineTask Count) (queued : List (MetricBatch Count)) : Prop where
  running : task.running = true
  unreplied : task.reply = none
  counted : task.pipeline.finalize.Counts task.ingested
  queue : task.queue = queued.map .batch

/-- The task has been asked for the report on these batches. -/
inductive Reports (task : PipelineTask Count) (batches : Multiset (MetricBatch Count)) :
    Prop where
  | asked (queued : List (MetricBatch Count))
      (running : task.running = true)
      (unreplied : task.reply = none)
      (counted : task.pipeline.finalize.Counts task.ingested)
      (queue : task.queue = queued.map .batch ++ [.finalize])
      (all : batches = task.ingested + queued)
  | replied (report : GlobalReport Count)
      (reply : task.reply = some report)
      (queue : task.queue = [])
      (counts : report.Counts batches)

theorem collects_spawn (runId : String) (bucketCount : Nat) (windowEpochs : Int) :
    (spawn runId bucketCount windowEpochs : PipelineTask Count).Collects [] where
  running := rfl
  unreplied := rfl
  counted := counts_new runId bucketCount windowEpochs
  queue := rfl

namespace Collects

variable {task next : PipelineTask Count} {queued : List (MetricBatch Count)}

theorem send (collects : task.Collects queued) (batch : MetricBatch Count) :
    (task.send (.batch batch)).Collects (queued ++ [batch]) ∧
      (task.send (.batch batch)).ingested = task.ingested := by
  have sent : task.send (.batch batch) = { task with queue := task.queue ++ [.batch batch] } :=
    if_pos collects.running
  rw [sent]
  refine ⟨⟨collects.running, collects.unreplied, collects.counted, ?_⟩, rfl⟩
  rw [collects.queue, List.map_append]
  rfl

theorem of_move (collects : task.Collects queued) (move : MasterState.PipelineMove task next) :
    ∃ batch rest,
      queued = batch :: rest ∧ next.Collects rest ∧ next.ingested = task.ingested ++ [batch] := by
  have queue := collects.queue
  cases move with
  | ingest batch rest running present =>
    rw [present] at queue
    obtain ⟨first, others, split, same, remaining⟩ := List.map_eq_cons_iff.mp queue.symm
    cases same
    refine ⟨batch, others, split, ⟨running, collects.unreplied, ?_, remaining.symm⟩, rfl⟩
    rw [← Multiset.coe_add]
    exact counts_ingest collects.counted batch
  | finalize rest running present =>
    rw [present] at queue
    obtain ⟨first, others, split, same, remaining⟩ := List.map_eq_cons_iff.mp queue.symm
    cases same
  | shutdown rest running present =>
    rw [present] at queue
    obtain ⟨first, others, split, same, remaining⟩ := List.map_eq_cons_iff.mp queue.symm
    cases same

theorem finalize (collects : task.Collects queued) :
    (task.send .finalize).Reports (task.ingested + queued) := by
  have sent : task.send .finalize = { task with queue := task.queue ++ [.finalize] } :=
    if_pos collects.running
  rw [sent]
  refine .asked queued collects.running collects.unreplied collects.counted ?_ rfl
  rw [collects.queue]

end Collects

namespace Reports

variable {task next : PipelineTask Count} {batches : Multiset (MetricBatch Count)}

theorem of_move (reports : task.Reports batches) (move : MasterState.PipelineMove task next) :
    next.Reports batches := by
  cases reports with
  | replied report reply queue =>
    cases move with
    | ingest batch rest running present | finalize rest running present
    | shutdown rest running present =>
      rw [queue] at present
      cases present
  | asked queued running unreplied counted queue all =>
    cases queued with
    | nil =>
      cases move with
      | ingest batch rest running present | shutdown rest running present =>
        rw [queue] at present
        cases present
      | finalize rest running present =>
        rw [queue] at present
        cases present
        refine .replied _ rfl rfl ?_
        rw [all, Multiset.coe_nil, add_zero]
        exact counted
    | cons first others =>
      cases move with
      | finalize rest running present | shutdown rest running present =>
        rw [queue] at present
        cases present
      | ingest batch rest running present =>
        rw [queue] at present
        cases present
        refine .asked others running unreplied ?_ rfl ?_
        · rw [← Multiset.coe_add]
          exact counts_ingest counted first
        · rw [all, Multiset.coe_add, Multiset.coe_add, List.append_assoc]
          rfl

end Reports

end PipelineTask

namespace TelemetryStream

omit [Counter Count]

def inHand (stream : TelemetryStream Count) : List (MetricBatch Count) :=
  match stream.phase with
  | .ingesting batch => [batch]
  | .forwarding batch _ => [batch]
  | _ => []

end TelemetryStream

open TelemetryStream (isClosed inHand)

section Streams

omit [Counter Count]

def streamed (streams : List (TelemetryStream Count)) : Multiset (MetricBatch Count) :=
  (streams.map (fun stream => (stream.received : Multiset _))).sum

def inHands (streams : List (TelemetryStream Count)) : Multiset (MetricBatch Count) :=
  (streams.map (fun stream => (stream.inHand : Multiset _))).sum

variable {stream : TelemetryStream Count}

theorem streamed_set {streams : List (TelemetryStream Count)} {index : Nat}
    (moved : TelemetryStream Count) (found : streams[index]? = some stream) :
    streamed (streams.set index moved) + stream.received = streamed streams + moved.received :=
  sum_map_set _ moved found

theorem inHands_set {streams : List (TelemetryStream Count)} {index : Nat}
    (moved : TelemetryStream Count) (found : streams[index]? = some stream) :
    inHands (streams.set index moved) + stream.inHand = inHands streams + moved.inHand :=
  sum_map_set _ moved found

structure RunKey where
  runId : String
  allocated : List String
  pipeline : Nat

def ActiveRun.key (run : ActiveRun) : RunKey :=
  ⟨run.runId, run.allocated, run.pipeline⟩

def StartCall.key? (call : StartCall Count) : Option RunKey :=
  call.installed.map (fun pipeline => ⟨call.config.testRunId, call.allocated, pipeline⟩)

theorem StartCall.key?_eq_none_iff {call : StartCall Count} :
    call.key? = none ↔ call.installed = none :=
  Option.map_eq_none_iff

theorem StartCall.allocated_of_key? {call : StartCall Count} {key : RunKey}
    (keyed : call.key? = some key) :
    key.allocated = call.allocated := by
  obtain ⟨pipeline, _, rfl⟩ := Option.map_eq_some_iff.mp keyed
  rfl

structure TelemetryStream.Belongs (stream : TelemetryStream Count) (key : RunKey) : Prop where
  worker : stream.received ≠ [] → stream.workerId ∈ key.allocated
  silent : stream.received = [] → stream.workerId = "" ∧ stream.phase = .reading
  ingesting : ∀ batch, stream.phase = .ingesting batch → batch.testRunId = key.runId
  forwarding : ∀ batch target, stream.phase = .forwarding batch target → target = some key.pipeline

theorem TelemetryStream.Belongs.goOn {key : RunKey} {phase : StreamPhase Count}
    (belongs : stream.Belongs key) (received : stream.received ≠ [])
    (quiet : phase = .reading ∨ phase = .marking ∨ phase = .closed) :
    TelemetryStream.Belongs { stream with phase } key where
  worker := belongs.worker
  silent := fun empty => absurd empty received
  ingesting := by rcases quiet with rfl | rfl | rfl <;> exact fun _ same => by cases same
  forwarding := by rcases quiet with rfl | rfl | rfl <;> exact fun _ _ same => by cases same

structure OwnStreams (key : RunKey) (streams : List (TelemetryStream Count)) : Prop where
  belong : ∀ (index : Nat) stream, streams[index]? = some stream → stream.Belongs key
  distinct :
    ∀ (first second : Nat) stream other,
      streams[first]? = some stream → streams[second]? = some other →
        stream.received ≠ [] → stream.workerId = other.workerId → first = second

def Closed (streams : List (TelemetryStream Count)) (workerId : String) : Prop :=
  ∃ stream ∈ streams, stream.workerId = workerId ∧ stream.isClosed = true

def AllDone (key : RunKey) (streams : List (TelemetryStream Count)) : Prop :=
  ∀ workerId ∈ key.allocated, Closed streams workerId

/-- What a stream of the run may do: carry batches of the run, from one allocated worker
that has no other stream, and close after at least one of them. -/
def permits
    (key : RunKey) (streams : List (TelemetryStream Count)) (stream : TelemetryStream Count) :
    StreamAction Count → Prop
  | .receive batch =>
    batch.testRunId = key.runId ∧ batch.workerId ∈ key.allocated ∧
      if stream.received = [] then
        ∀ other ∈ streams, other.workerId ≠ batch.workerId
      else
        batch.workerId = stream.workerId
  | .halfClose => stream.received ≠ []
  | .fail => False
  | _ => True

instance (key : RunKey) (streams : List (TelemetryStream Count)) (stream : TelemetryStream Count)
    (action : StreamAction Count) : Decidable (permits key streams stream action) := by
  unfold permits
  rcases action with _ | _ <;> dsimp only <;> infer_instance

namespace OwnStreams

variable {key : RunKey} {streams : List (TelemetryStream Count)}
  {index : Nat} {stream : TelemetryStream Count}

theorem received_ne_nil (own : OwnStreams key streams)
    (found : streams[index]? = some stream) (busy : stream.phase ≠ .reading) :
    stream.received ≠ [] :=
  fun empty => busy ((own.belong index stream found).silent empty).2

theorem allocated_of_closed
    (own : OwnStreams key streams) {workerId : String} (closed : Closed streams workerId) :
    workerId ∈ key.allocated := by
  obtain ⟨stream, member, rfl, shut⟩ := closed
  obtain ⟨index, found⟩ := List.mem_iff_getElem?.mp member
  apply (own.belong index stream found).worker
  apply own.received_ne_nil found
  intro reading
  rw [isClosed, reading] at shut
  cases shut

theorem isClosed_of_allDone (own : OwnStreams key streams) (done : AllDone key streams)
    (found : streams[index]? = some stream) (received : stream.received ≠ []) :
    stream.isClosed = true := by
  have allocated := (own.belong index stream found).worker received
  obtain ⟨other, member, same, shut⟩ := done stream.workerId allocated
  obtain ⟨position, there⟩ := List.mem_iff_getElem?.mp member
  have equal := own.distinct index position stream other found there received same.symm
  rw [equal, there] at found
  cases found
  exact shut

theorem reading_of_allDone (own : OwnStreams key streams) (done : AllDone key streams)
    (found : streams[index]? = some stream) (unclosed : stream.isClosed = false) :
    stream.received = [] ∧ stream.phase = .reading := by
  by_cases received : stream.received = []
  · exact ⟨received, ((own.belong index stream found).silent received).2⟩
  · rw [own.isClosed_of_allDone done found received] at unclosed
    cases unclosed

theorem inHands_eq_zero (own : OwnStreams key streams) (done : AllDone key streams) :
    inHands streams = 0 := by
  apply List.sum_eq_zero
  intro hand member
  obtain ⟨stream, listed, rfl⟩ := List.mem_map.mp member
  obtain ⟨index, found⟩ := List.mem_iff_getElem?.mp listed
  have empty : stream.inHand = [] := by
    cases closed : stream.isClosed with
    | true =>
      unfold isClosed at closed
      split at closed
      · rename_i phase
        rw [inHand, phase]
      · cases closed
    | false => rw [inHand, (own.reading_of_allDone done found closed).2]
  rw [empty]
  rfl

theorem set (own : OwnStreams key streams) {moved : TelemetryStream Count}
    (belongs : moved.Belongs key)
    (separate :
      ∀ position other,
        position ≠ index → streams[position]? = some other →
          moved.received ≠ [] ∨ other.received ≠ [] → moved.workerId ≠ other.workerId) :
    OwnStreams key (streams.set index moved) where
  belong := forall_set own.belong belongs
  distinct := by
    intro first second stream other firstFound secondFound received same
    by_cases atFirst : index = first
    · by_cases atSecond : index = second
      · rw [← atFirst, ← atSecond]
      · subst atFirst
        rw [List.getElem?_set_ne atSecond] at secondFound
        have bound := lt_length_of_getElem?_eq_some firstFound
        rw [List.length_set] at bound
        rw [List.getElem?_set_self bound] at firstFound
        cases firstFound
        exact absurd same (separate second other (Ne.symm atSecond) secondFound (Or.inl received))
    · rw [List.getElem?_set_ne atFirst] at firstFound
      by_cases atSecond : index = second
      · subst atSecond
        have bound := lt_length_of_getElem?_eq_some secondFound
        rw [List.length_set] at bound
        rw [List.getElem?_set_self bound] at secondFound
        cases secondFound
        exact
          absurd same.symm
            (separate first stream (Ne.symm atFirst) firstFound (Or.inr received))
      · rw [List.getElem?_set_ne atSecond] at secondFound
        exact own.distinct first second stream other firstFound secondFound received same

theorem set_of_same (own : OwnStreams key streams)
    {moved : TelemetryStream Count} (found : streams[index]? = some stream)
    (belongs : moved.Belongs key) (worker : moved.workerId = stream.workerId)
    (received : moved.received ≠ [] → stream.received ≠ []) :
    OwnStreams key (streams.set index moved) := by
  apply own.set belongs
  intro position other different there nonempty same
  rw [worker] at same
  rcases nonempty with mine | others
  · exact different (own.distinct index position stream other found there (received mine) same).symm
  · exact different (own.distinct position index other stream there found others same.symm)

theorem concat (own : OwnStreams key streams) (named : "" ∉ key.allocated)
    {opened : TelemetryStream Count}
    (fresh : opened.received = [] ∧ opened.workerId = "" ∧ opened.phase = .reading) :
    OwnStreams key (streams ++ [opened]) where
  belong := by
    apply forall_concat own.belong
    refine ⟨fun received => absurd fresh.1 received, fun _ => fresh.2, ?_, ?_⟩
    · intro batch phase
      rw [fresh.2.2] at phase
      cases phase
    · intro batch target phase
      rw [fresh.2.2] at phase
      cases phase
  distinct := by
    intro first second stream other firstFound secondFound received same
    rcases getElem?_concat_cases firstFound with old | ⟨_, rfl⟩
    · rcases getElem?_concat_cases secondFound with otherOld | ⟨_, rfl⟩
      · exact own.distinct first second stream other old otherOld received same
      · have allocated := (own.belong first stream old).worker received
        rw [same, fresh.2.1] at allocated
        exact absurd allocated named
    · exact absurd fresh.1 received

end OwnStreams

end Streams

/-! ## While the run is active -/

/-- Every batch that arrived is ingested, queued or in hand. -/
def Ledger (pipelines : List (PipelineTask Count)) (streams : List (TelemetryStream Count))
    (key : RunKey) : Prop :=
  ∃ task queued,
    pipelines[key.pipeline]? = some task ∧ task.Collects queued ∧
      streamed streams = task.ingested + queued + inHands streams

structure Active (run : Option ActiveRun) (pipelines : List (PipelineTask Count))
    (streams : List (TelemetryStream Count)) (key : RunKey) : Prop where
  allocation : Registry.Allocation key.allocated
  own : OwnStreams key streams
  slot :
    ∃ active,
      run = some active ∧ active.key = key ∧
        ∀ workerId, workerId ∈ active.telemetryDone ↔ Closed streams workerId
  ledger : Ledger pipelines streams key

section Active

variable {key : RunKey} {run : Option ActiveRun} {pipelines : List (PipelineTask Count)}
  {streams : List (TelemetryStream Count)} {index : Nat} {stream moved : TelemetryStream Count}

omit [Counter Count] in
theorem closed_set_iff {workerId : String}
    (found : streams[index]? = some stream) (unclosed : stream.isClosed = false)
    (unclosedOn : moved.isClosed = false) :
    Closed (streams.set index moved) workerId ↔ Closed streams workerId := by
  constructor
  · rintro ⟨present, member, named, shut⟩
    rcases List.mem_or_eq_of_mem_set member with old | new
    · exact ⟨present, old, named, shut⟩
    · rw [new, unclosedOn] at shut
      cases shut
  · rintro ⟨present, member, named, shut⟩
    exact ⟨present, mem_set_of_selected found unclosed member shut, named, shut⟩

omit [Counter Count] in
theorem closed_concat_iff
    {workerId : String} {opened : TelemetryStream Count} (unclosed : opened.isClosed = false) :
    Closed (streams ++ [opened]) workerId ↔ Closed streams workerId := by
  constructor
  · rintro ⟨present, member, named, shut⟩
    rcases List.mem_append.mp member with old | new
    · exact ⟨present, old, named, shut⟩
    · rw [List.mem_singleton.mp new, unclosed] at shut
      cases shut
  · rintro ⟨present, member, facts⟩
    exact ⟨present, List.mem_append_left _ member, facts⟩

theorem Ledger.keep (ledger : Ledger pipelines streams key) (found : streams[index]? = some stream)
    (received : moved.received = stream.received) (hand : moved.inHand = stream.inHand) :
    Ledger pipelines (streams.set index moved) key := by
  obtain ⟨task, queued, there, collects, accounted⟩ := ledger
  refine ⟨task, queued, there, collects, ?_⟩
  have sameReceived : streamed (streams.set index moved) = streamed streams :=
    sum_map_set_of_eq found (congrArg _ received)
  have sameHands : inHands (streams.set index moved) = inHands streams :=
    sum_map_set_of_eq found (congrArg _ hand)
  rw [sameReceived, sameHands]
  exact accounted

variable {batch : MetricBatch Count}

theorem Ledger.receive
    (ledger : Ledger pipelines streams key) (found : streams[index]? = some stream)
    (received : moved.received = stream.received ++ [batch])
    (before : stream.inHand = []) (after : moved.inHand = [batch]) :
    Ledger pipelines (streams.set index moved) key := by
  obtain ⟨task, queued, there, collects, accounted⟩ := ledger
  refine ⟨task, queued, there, collects, ?_⟩
  have arrived : streamed (streams.set index moved) = streamed streams + {batch} := by
    have changed := streamed_set moved found
    rw [received, ← Multiset.coe_add, ← add_assoc, add_right_comm] at changed
    exact add_right_cancel changed
  have taken : inHands (streams.set index moved) = inHands streams + {batch} := by
    have changed := inHands_set moved found
    rw [before, after, Multiset.coe_nil, add_zero] at changed
    exact changed
  rw [arrived, taken, accounted, add_assoc]

theorem Ledger.forward {task : PipelineTask Count} {queued : List (MetricBatch Count)}
    {after : List (PipelineTask Count)} (collects : task.Collects queued)
    (accounted : streamed streams = task.ingested + queued + inHands streams)
    (sent : after[key.pipeline]? = some (task.send (.batch batch)))
    (found : streams[index]? = some stream) (received : moved.received = stream.received)
    (before : stream.inHand = [batch]) (empty : moved.inHand = []) :
    Ledger after (streams.set index moved) key := by
  obtain ⟨collectsOn, ingested⟩ := collects.send batch
  refine ⟨_, _, sent, collectsOn, ?_⟩
  have sameReceived : streamed (streams.set index moved) = streamed streams :=
    sum_map_set_of_eq found (congrArg _ received)
  have given : inHands streams = inHands (streams.set index moved) + {batch} := by
    have changed := inHands_set moved found
    rw [before, empty, Multiset.coe_nil, add_zero] at changed
    exact changed.symm
  rw [sameReceived, accounted, given, ingested, ← Multiset.coe_add, add_assoc, add_assoc,
    add_assoc, add_comm (inHands _)]
  rfl

theorem Active.set {after : List (PipelineTask Count)} (active : Active run pipelines streams key)
    (found : streams[index]? = some stream) (unclosed : stream.isClosed = false)
    (unclosedOn : moved.isClosed = false) (own : OwnStreams key (streams.set index moved))
    (ledger : Ledger after (streams.set index moved) key) :
    Active run after (streams.set index moved) key where
  allocation := active.allocation
  own := own
  slot := by
    obtain ⟨present, there, same, done⟩ := active.slot
    refine ⟨present, there, same, ?_⟩
    intro workerId
    rw [closed_set_iff found unclosed unclosedOn]
    exact done workerId
  ledger := ledger

theorem Active.receive
    (active : Active run pipelines streams key) (found : streams[index]? = some stream)
    (phase : stream.phase = .reading) (permitted : permits key streams stream (.receive batch)) :
    Active run pipelines
      (streams.set index
        { workerId := if batch.workerId = "" then stream.workerId else batch.workerId
          acceptedBatches := stream.acceptedBatches + 1
          acceptedRequests := stream.acceptedRequests + batch.totalRequests
          lastBatchId := batch.batchId
          phase := .ingesting batch
          received := stream.received ++ [batch] })
      key := by
  obtain ⟨sameRun, allocated, sole⟩ := permitted
  have named : batch.workerId ≠ "" := fun empty => active.allocation.named (empty ▸ allocated)
  rw [if_neg named]
  refine active.set found (by rw [isClosed, phase]) rfl ?_ ?_
  · have belongs :
        TelemetryStream.Belongs
          { workerId := batch.workerId
            acceptedBatches := stream.acceptedBatches + 1
            acceptedRequests := stream.acceptedRequests + batch.totalRequests
            lastBatchId := batch.batchId
            phase := .ingesting batch
            received := stream.received ++ [batch] } key := by
      refine ⟨fun _ => allocated, ?_, ?_, ?_⟩
      · intro empty
        simp at empty
      · intro other same
        cases same
        exact sameRun
      · intro other target same
        cases same
    by_cases first : stream.received = []
    · rw [if_pos first] at sole
      apply active.own.set belongs
      intro position other _ there _ same
      exact sole other (List.mem_of_getElem? there) same.symm
    · rw [if_neg first] at sole
      exact active.own.set_of_same found belongs sole (fun _ => first)
  · exact active.ledger.receive found rfl (by rw [inHand, phase]) rfl

variable {state : MasterState Count}

theorem Active.lookup (active : Active state.run pipelines streams key)
    (found : streams[index]? = some stream) (phase : stream.phase = .ingesting batch) :
    Active state.run pipelines
      (streams.set index
        { stream with phase := .forwarding batch (state.ingestTarget batch) })
      key := by
  have belongs := active.own.belong index stream found
  have received := active.own.received_ne_nil found (by rw [phase]; intro same; cases same)
  have target : state.ingestTarget batch = some key.pipeline := by
    obtain ⟨present, there, same, _⟩ := active.slot
    have runId : batch.testRunId = present.runId := by
      rw [belongs.ingesting batch phase, ← same]
      rfl
    rw [MasterState.ingestTarget, there, Option.filter_some, ← same]
    simp [runId, ActiveRun.key]
  refine active.set found (by rw [isClosed, phase]) rfl ?_ ?_
  · refine active.own.set_of_same found ⟨fun _ => belongs.worker received, ?_, ?_, ?_⟩ rfl id
    · exact fun empty => absurd empty received
    · intro other same
      cases same
    · intro other chosen same
      cases same
      exact target
  · refine active.ledger.keep found rfl ?_
    rw [inHand, inHand, phase]

theorem Active.forward {target : Nat} (active : Active run state.pipelines streams key)
    (found : streams[index]? = some stream)
    (phase : stream.phase = .forwarding batch (some target)) :
    Active run (state.sendPipeline target (.batch batch)).pipelines
      (streams.set index { stream with phase := .reading }) key := by
  have belongs := active.own.belong index stream found
  have received := active.own.received_ne_nil found (by rw [phase]; intro same; cases same)
  have same := Option.some.inj (belongs.forwarding batch (some target) phase)
  refine active.set found (by rw [isClosed, phase]) rfl ?_ ?_
  · exact active.own.set_of_same found (belongs.goOn received (.inl rfl)) rfl id
  · obtain ⟨task, queued, there, collects, accounted⟩ := active.ledger
    have sent :
        (state.sendPipeline target (.batch batch)).pipelines[key.pipeline]? =
          some (task.send (.batch batch)) := by
      rw [MasterState.getElem?_sendPipeline, there, Option.map_some, if_pos same]
    exact .forward collects accounted sent found rfl (by rw [inHand, phase]) rfl

theorem Active.halfClose
    (active : Active run pipelines streams key) (found : streams[index]? = some stream)
    (phase : stream.phase = .reading) (received : stream.received ≠ []) :
    Active run pipelines (streams.set index { stream with phase := .marking }) key := by
  have belongs := active.own.belong index stream found
  refine active.set found (by rw [isClosed, phase]) rfl ?_ ?_
  · exact active.own.set_of_same found (belongs.goOn received (.inr (.inl rfl))) rfl id
  · refine active.ledger.keep found rfl ?_
    rw [inHand, inHand, phase]

theorem Active.mark
    (active : Active state.run pipelines streams key) (found : streams[index]? = some stream)
    (phase : stream.phase = .marking) :
    Active (state.markTelemetryDone stream.workerId).run pipelines
      (streams.set index { stream with phase := .closed }) key := by
  have belongs := active.own.belong index stream found
  have received := active.own.received_ne_nil found (by rw [phase]; intro same; cases same)
  have unclosed : stream.isClosed = false := by rw [isClosed, phase]
  have named : stream.workerId ≠ "" :=
    fun empty => active.allocation.named (empty ▸ belongs.worker received)
  refine ⟨active.allocation, ?_, ?_, ?_⟩
  · exact active.own.set_of_same found (belongs.goOn received (.inr (.inr rfl))) rfl id
  · obtain ⟨present, there, same, done⟩ := active.slot
    refine
      ⟨{ present with telemetryDone := insert stream.workerId present.telemetryDone }, ?_, same, ?_⟩
    · simp only [MasterState.markTelemetryDone, if_neg named, there, Option.map_some]
    · intro workerId
      rw [Finset.mem_insert, done workerId]
      constructor
      · rintro (marked | ⟨other, member, facts, shut⟩)
        · exact
            ⟨{ stream with phase := .closed },
              List.mem_of_getElem? (getElem?_set_of_some _ found), marked.symm, rfl⟩
        · exact ⟨other, mem_set_of_selected found unclosed member shut, facts, shut⟩
      · rintro ⟨other, member, facts⟩
        rcases List.mem_or_eq_of_mem_set member with old | new
        · exact Or.inr ⟨other, old, facts⟩
        · rw [new] at facts
          exact Or.inl facts.1.symm
  · refine active.ledger.keep found rfl ?_
    rw [inHand, inHand, phase]

theorem Ledger.openStream {opened : TelemetryStream Count} (ledger : Ledger pipelines streams key)
    (received : opened.received = []) (hand : opened.inHand = []) :
    Ledger pipelines (streams ++ [opened]) key := by
  obtain ⟨task, queued, there, collects, accounted⟩ := ledger
  refine ⟨task, queued, there, collects, ?_⟩
  simp only [streamed, inHands, List.map_append, List.sum_append, List.map_cons, received,
    hand, List.map_nil, List.sum_cons, List.sum_nil, Multiset.coe_nil, add_zero]
  exact accounted

theorem Ledger.pipeline {task next : PipelineTask Count}
    (ledger : Ledger pipelines streams key) (found : pipelines[index]? = some task)
    (move : MasterState.PipelineMove task next) :
    Ledger (pipelines.set index next) streams key := by
  obtain ⟨own, queued, there, collects, accounted⟩ := ledger
  by_cases same : index = key.pipeline
  · subst same
    rw [found] at there
    cases there
    obtain ⟨batch, rest, rfl, collectsOn, ingested⟩ := collects.of_move move
    refine ⟨next, rest, getElem?_set_of_some next found, collectsOn, ?_⟩
    rw [accounted, ingested, Multiset.coe_add, Multiset.coe_add, List.append_assoc]
    rfl
  · refine ⟨own, queued, ?_, collects, accounted⟩
    rw [List.getElem?_set_ne same]
    exact there

theorem Active.marked {present : ActiveRun} (active : Active run pipelines streams key)
    (there : run = some present) :
    present.allocated = key.allocated ∧
      ∀ workerId, workerId ∈ present.telemetryDone ↔ Closed streams workerId := by
  obtain ⟨other, found, same, done⟩ := active.slot
  rw [there] at found
  cases found
  exact ⟨congrArg RunKey.allocated same, done⟩

theorem Active.allDone {present : ActiveRun} (active : Active run pipelines streams key)
    (there : run = some present) (enough : present.allocated.length ≤ present.telemetryDone.card) :
    AllDone key streams := by
  obtain ⟨allocated, done⟩ := active.marked there
  rw [allocated] at enough
  intro workerId member
  rw [← done]
  apply mem_of_enough active.allocation.distinct _ enough workerId member
  exact fun marked listed => active.own.allocated_of_closed ((done marked).mp listed)

theorem Active.enough {present : ActiveRun} (active : Active run pipelines streams key)
    (there : run = some present) (all : AllDone key streams) :
    present.allocated.length ≤ present.telemetryDone.card := by
  obtain ⟨allocated, done⟩ := active.marked there
  rw [allocated, ← List.toFinset_card_of_nodup active.allocation.distinct]
  apply Finset.card_le_card
  intro workerId member
  exact (done workerId).mpr (all workerId (List.mem_toFinset.mp member))

end Active

/-! ## After the last stream has closed -/

omit [Counter Count] in
structure Settled (streams : List (TelemetryStream Count)) (key : RunKey) : Prop where
  allocation : Registry.Allocation key.allocated
  own : OwnStreams key streams
  done : AllDone key streams

/-- The pipeline has been asked for the report on everything that arrived. -/
def Reporting (pipelines : List (PipelineTask Count)) (streams : List (TelemetryStream Count))
    (key : RunKey) : Prop :=
  ∃ task, pipelines[key.pipeline]? = some task ∧ task.Reports (streamed streams)

section Settled

variable {key : RunKey} {pipelines : List (PipelineTask Count)}
  {streams : List (TelemetryStream Count)}

theorem Settled.no_move
    {state next : MasterState Count} {index position : Nat} {stream : TelemetryStream Count}
    {action : StreamAction Count} (settled : Settled streams key)
    (found : streams[position]? = some stream) (permitted : permits key streams stream action)
    (move : MasterState.StreamMove state index stream action next) : False := by
  have quiet := fun unclosed : stream.isClosed = false =>
    settled.own.reading_of_allDone settled.done found unclosed
  cases move with
  | receive batch phase =>
    obtain ⟨received, _⟩ := quiet (by rw [isClosed, phase])
    obtain ⟨_, allocated, sole⟩ := permitted
    rw [if_pos received] at sole
    obtain ⟨other, member, named, _⟩ := settled.done batch.workerId allocated
    exact sole other member named
  | halfClose phase =>
    obtain ⟨received, _⟩ := quiet (by rw [isClosed, phase])
    exact permitted received
  | fail => exact permitted
  | lookup batch phase | discard batch phase | forward batch pipeline phase | mark phase =>
    have reading := (quiet (by rw [isClosed, phase])).2
    rw [phase] at reading
    cases reading

omit [Counter Count] in
theorem Settled.openStream {opened : TelemetryStream Count} (settled : Settled streams key)
    (fresh : opened.received = [] ∧ opened.workerId = "" ∧ opened.phase = .reading) :
    Settled (streams ++ [opened]) key where
  allocation := settled.allocation
  own := settled.own.concat settled.allocation.named fresh
  done := fun workerId member =>
    (closed_concat_iff (by rw [isClosed, fresh.2.2])).mpr
      (settled.done workerId member)

theorem Settled.reporting {state : MasterState Count} (settled : Settled streams key)
    (ledger : Ledger state.pipelines streams key) :
    Reporting (state.sendPipeline key.pipeline .finalize).pipelines streams key := by
  obtain ⟨task, queued, there, collects, accounted⟩ := ledger
  refine ⟨task.send .finalize, ?_, ?_⟩
  · rw [MasterState.getElem?_sendPipeline, there, Option.map_some, if_pos rfl]
  · rw [accounted, settled.own.inHands_eq_zero settled.done, add_zero]
    exact collects.finalize

theorem Reporting.pipeline {index : Nat} {task next : PipelineTask Count}
    (reporting : Reporting pipelines streams key) (found : pipelines[index]? = some task)
    (move : MasterState.PipelineMove task next) :
    Reporting (pipelines.set index next) streams key := by
  obtain ⟨own, there, reports⟩ := reporting
  by_cases same : index = key.pipeline
  · subst same
    rw [found] at there
    cases there
    exact ⟨next, getElem?_set_of_some next found, reports.of_move move⟩
  · refine ⟨own, ?_, reports⟩
    rw [List.getElem?_set_ne same]
    exact there

theorem Reporting.counts {task : PipelineTask Count} {report : GlobalReport Count}
    (reporting : Reporting pipelines streams key) (found : pipelines[key.pipeline]? = some task)
    (reply : task.reply = some report) :
    report.Counts (streamed streams) := by
  obtain ⟨own, there, reports⟩ := reporting
  rw [found] at there
  cases there
  cases reports with
  | asked queued running unreplied =>
    rw [unreplied] at reply
    cases reply
  | replied other given queue counts =>
    rw [given] at reply
    cases reply
    exact counts

end Settled

end Strobengine.Distributed.Master
