import Strobengine.Distributed.Master.Pipeline
import Strobengine.Rust.Grouping
import Strobengine.Rust.Text

/-!
# Conservation in the telemetry pipeline

Every count that a batch carries is a `Quantity`; what a batch adds to each accumulator is the same
amount of it.
-/

namespace Strobengine.Distributed.Master

open Rust
open Proto (MetricBatch ErrorClass LatencySummary ErrorBreakdown)

inductive Quantity where
  | requests
  | successes
  | failures
  | bytes
  | bucket (index : Nat)
  | samples
  | errors (errorClass : Int)
  deriving DecidableEq, Repr

namespace Quantity

variable {Count : Type} [Counter Count]

/-- The amount in a batch, of whose latency buckets only the first `bucketCount` count. -/
def inBatch (bucketCount : Nat) (batch : MetricBatch Count) : Quantity → Count
  | .requests => batch.totalRequests
  | .successes => batch.successCount
  | .failures => batch.failureCount
  | .bytes => batch.bytesReceived
  | .bucket index =>
    if index < bucketCount then
      batch.latency.elim 0 (fun latency => (latency.bucketCounts[index]?).getD 0)
    else
      0
  | .samples => batch.latency.elim 0 LatencySummary.sampleCount
  | .errors errorClass =>
    ((batch.errors.filter (fun error => error.errorClass = errorClass)).map
      ErrorBreakdown.count).sum

def inMetrics (metrics : Metrics Count) : Quantity → Count
  | .requests => metrics.total
  | .successes => metrics.success
  | .failures => metrics.failure
  | .bytes => metrics.bytes
  | .bucket index => (metrics.buckets[index]?).getD 0
  | .samples => metrics.sampleCount
  | .errors errorClass => (metrics.errors.lookup errorClass).getD 0

/-- The amount in a report, whose error counts are listed under the names of the
classes. -/
def inReport (report : GlobalReport Count) : Quantity → Count
  | .requests => report.totalRequests
  | .successes => report.successCount
  | .failures => report.failureCount
  | .bytes => report.bytesReceived
  | .bucket index => (report.latency.bucketCounts[index]?).getD 0
  | .samples => report.latency.sampleCount
  | .errors errorClass =>
    ((report.errorBreakdown.filter (fun entry =>
      entry.errorClass = TelemetryPipeline.errorClassName errorClass)).map
        ErrorClassCount.count).sum

end Quantity

namespace Metrics

variable {Count : Type} [Counter Count]

theorem length_addBuckets (buckets counts : List Count) :
    (addBuckets buckets counts).length = buckets.length := by
  simp [addBuckets]

theorem getElem?_addBuckets (buckets counts : List Count) (index : Nat) :
    (addBuckets buckets counts)[index]? =
      (buckets[index]?).map (fun count => count + (counts[index]?).getD 0) := by
  simp only [addBuckets, List.getElem?_map, List.getElem?_zipIdx, Option.map_map, Nat.zero_add]
  rfl

@[simp]
theorem mergeBatch_buckets (metrics : Metrics Count) (batch : MetricBatch Count) :
    (metrics.mergeBatch batch).buckets =
      batch.latency.elim metrics.buckets
        (fun latency => addBuckets metrics.buckets latency.bucketCounts) := by
  cases latency : batch.latency <;> simp [mergeBatch, latency]

@[simp]
theorem mergeBatch_sampleCount (metrics : Metrics Count) (batch : MetricBatch Count) :
    (metrics.mergeBatch batch).sampleCount =
      metrics.sampleCount + batch.latency.elim 0 LatencySummary.sampleCount := by
  cases latency : batch.latency <;> simp [mergeBatch, latency]

@[simp]
theorem mergeBatch_errors (metrics : Metrics Count) (batch : MetricBatch Count) :
    (metrics.mergeBatch batch).errors =
      batch.errors.foldl
        (fun errors error =>
          errors.entryOr error.errorClass 0 (fun count => count + error.count))
        metrics.errors := by
  cases latency : batch.latency <;> simp [mergeBatch, latency]

def Sized (bucketCount : Nat) (metrics : Metrics Count) : Prop :=
  metrics.buckets.length = bucketCount

theorem sized_new (bucketCount : Nat) : (new bucketCount : Metrics Count).Sized bucketCount :=
  List.length_replicate

theorem Sized.mergeBatch
    {bucketCount : Nat} {metrics : Metrics Count} (sized : metrics.Sized bucketCount)
    (batch : MetricBatch Count) :
    (metrics.mergeBatch batch).Sized bucketCount := by
  unfold Sized at *
  rw [mergeBatch_buckets]
  cases batch.latency with
  | none => exact sized
  | some => exact (length_addBuckets _ _).trans sized

theorem inMetrics_new (bucketCount : Nat) (quantity : Quantity) :
    quantity.inMetrics (new bucketCount : Metrics Count) = 0 := by
  cases quantity with
  | bucket =>
    simp only [Quantity.inMetrics, new, List.getElem?_replicate]
    split <;> rfl
  | _ => rfl

theorem inMetrics_mergeBatch
    {bucketCount : Nat} {metrics : Metrics Count} (sized : metrics.Sized bucketCount)
    (batch : MetricBatch Count) (quantity : Quantity) :
    quantity.inMetrics (metrics.mergeBatch batch) =
      quantity.inMetrics metrics + quantity.inBatch bucketCount batch := by
  cases quantity with
  | requests => exact mergeBatch_total metrics batch
  | successes => exact mergeBatch_success metrics batch
  | failures => exact mergeBatch_failure metrics batch
  | bytes => exact mergeBatch_bytes metrics batch
  | samples => exact mergeBatch_sampleCount metrics batch
  | errors errorClass =>
    simp only [Quantity.inMetrics, Quantity.inBatch, mergeBatch_errors]
    exact HashMap.getD_lookup_foldl_entryOr _ _ errorClass batch.errors metrics.errors
  | bucket index =>
    simp only [Quantity.inMetrics, Quantity.inBatch, mergeBatch_buckets]
    unfold Sized at sized
    subst sized
    cases batch.latency with
    | none => simp
    | some =>
      simp only [Option.elim_some, getElem?_addBuckets]
      by_cases inside : index < metrics.buckets.length
      · simp [inside]
      · simp [inside]

def gathered (bucketCount : Nat) (batches : List (MetricBatch Count)) : Metrics Count :=
  batches.foldl mergeBatch (new bucketCount)

theorem gathered_concat (bucketCount : Nat) (batches : List (MetricBatch Count))
    (batch : MetricBatch Count) :
    gathered bucketCount (batches ++ [batch]) =
      (gathered bucketCount batches).mergeBatch batch := by
  rw [gathered, List.foldl_concat]
  rfl

theorem sized_gathered (bucketCount : Nat) (batches : List (MetricBatch Count)) :
    (gathered bucketCount batches).Sized bucketCount := by
  induction batches using List.reverseRecOn with
  | nil => exact sized_new bucketCount
  | append_singleton batches batch ih =>
    rw [gathered_concat]
    exact ih.mergeBatch batch

theorem inMetrics_gathered (bucketCount : Nat) (batches : List (MetricBatch Count))
    (quantity : Quantity) :
    quantity.inMetrics (gathered bucketCount batches) =
      (batches.map (fun batch => quantity.inBatch bucketCount batch)).sum := by
  induction batches using List.reverseRecOn with
  | nil => exact inMetrics_new bucketCount quantity
  | append_singleton batches batch ih =>
    rw [gathered_concat, inMetrics_mergeBatch (sized_gathered bucketCount batches) batch quantity,
      ih]
    simp

end Metrics

namespace TelemetryPipeline

variable {Count : Type} [Counter Count]

/-! ## A history of batches -/

def ingestAll (pipeline : TelemetryPipeline Count) (batches : List (MetricBatch Count)) :
    TelemetryPipeline Count :=
  batches.foldl (fun pipeline batch => (pipeline.ingest batch).1) pipeline

def epochKey (batch : MetricBatch Count) : Option Int :=
  some (epochOf batch.windowStartUnixMs)

def workerKey (batch : MetricBatch Count) : Option String :=
  if batch.workerId = "" then none else some batch.workerId

structure Holds (run : String) (width : Nat) (history : List (MetricBatch Count))
    (pipeline : TelemetryPipeline Count) : Prop where
  runId : pipeline.runId = run
  bucketCount : pipeline.bucketCount = width
  batches : pipeline.batches = history.length
  startedAtMs :
    pipeline.startedAtMs = history.head?.map (fun batch => epochOf batch.windowStartUnixMs)
  cumulative : pipeline.cumulative = Metrics.gathered width history
  epochs :
    pipeline.epochs = history.foldl (HashMap.collect epochKey (.new width) Metrics.mergeBatch) ∅
  workers :
    pipeline.workers = history.foldl (HashMap.collect workerKey (.new width) Metrics.mergeBatch) ∅

theorem holds_new (runId : String) (bucketCount : Nat) (windowEpochs : Int) :
    Holds runId (max bucketCount 1) []
      (new runId bucketCount windowEpochs : TelemetryPipeline Count) :=
  ⟨rfl, rfl, rfl, rfl, rfl, rfl, rfl⟩

theorem Holds.ingest {run : String} {width : Nat} {history : List (MetricBatch Count)}
    {pipeline : TelemetryPipeline Count} (holds : Holds run width history pipeline)
    (batch : MetricBatch Count) :
    Holds run width (history ++ [batch]) (pipeline.ingest batch).1 where
  runId := by rw [ingest_runId, holds.runId]
  bucketCount := by rw [ingest_bucketCount, holds.bucketCount]
  batches := by rw [ingest_batches, holds.batches, List.length_append]; rfl
  startedAtMs := by
    rw [ingest_fst, holds.startedAtMs]
    cases history with
    | nil | cons => rfl
  cumulative := by
    rw [ingest_cumulative, holds.cumulative, Metrics.gathered_concat]
  epochs := by
    rw [ingest_fst, List.foldl_concat, ← holds.epochs, ← holds.bucketCount]
    rfl
  workers := by
    rw [ingest_fst, List.foldl_concat, ← holds.workers, ← holds.bucketCount]
    unfold HashMap.collect workerKey
    by_cases anonymous : batch.workerId = ""
    · simp [anonymous]
    · simp [anonymous]

theorem holds_ingestAll (runId : String) (bucketCount : Nat) (windowEpochs : Int)
    (batches : List (MetricBatch Count)) :
    Holds runId (max bucketCount 1) batches
      ((new runId bucketCount windowEpochs).ingestAll batches) := by
  induction batches using List.reverseRecOn with
  | nil => exact holds_new runId bucketCount windowEpochs
  | append_singleton batches batch ih =>
    rw [ingestAll, List.foldl_concat]
    exact ih.ingest batch

theorem sumValues_collect
    {Key : Type} [DecidableEq Key] (key : MetricBatch Count → Option Key)
    (bucketCount : Nat) (batches : List (MetricBatch Count)) (quantity : Quantity) :
    HashMap.sumValues (fun metrics => quantity.inMetrics metrics)
        (batches.foldl
          (HashMap.collect key (.new bucketCount) Metrics.mergeBatch) ∅) =
      ((batches.filter (fun batch => (key batch).isSome)).map
        (fun batch => quantity.inBatch bucketCount batch)).sum := by
  have empty : quantity.inMetrics (Metrics.new bucketCount : Metrics Count) = 0 :=
    Metrics.inMetrics_new bucketCount quantity
  have added :
      ∀ (metrics : Metrics Count) (batch : MetricBatch Count),
        metrics.Sized bucketCount →
          quantity.inMetrics (metrics.mergeBatch batch) =
            quantity.inMetrics metrics + quantity.inBatch bucketCount batch :=
    fun _ batch sized => Metrics.inMetrics_mergeBatch sized batch quantity
  exact
    HashMap.sumValues_foldl_collect key _ _ _ _ (Metrics.Sized bucketCount) empty
      (Metrics.sized_new bucketCount) (fun _ batch sized => sized.mergeBatch batch) added
      batches

/-! ## Error classes in the report -/

theorem debugName_ne_unknown (known : ErrorClass) (text : String) :
    known.debugName ≠ "UNKNOWN(" ++ text := by
  intro same
  have texts := congrArg String.toList same
  cases known <;> simp [ErrorClass.debugName] at texts

theorem unknown_injective {first second : Int}
    (same : "UNKNOWN(" ++ toString first ++ ")" = "UNKNOWN(" ++ toString second ++ ")") :
    first = second := by
  have texts := congrArg String.toList same
  apply toString_int_injective
  apply String.toList_injective
  simpa using texts

theorem errorClassName_injective : Function.Injective errorClassName := by
  intro first second same
  unfold errorClassName at same
  cases firstKnown : ErrorClass.ofWire? first with
  | some firstClass =>
    cases secondKnown : ErrorClass.ofWire? second with
    | some =>
      simp only [firstKnown, secondKnown] at same
      have classes := ErrorClass.debugName_injective same
      rw [← ErrorClass.toWire_of_ofWire? firstKnown, classes,
        ErrorClass.toWire_of_ofWire? secondKnown]
    | none =>
      simp only [firstKnown, secondKnown] at same
      rw [String.append_assoc] at same
      exact absurd same (debugName_ne_unknown firstClass _)
  | none =>
    cases secondKnown : ErrorClass.ofWire? second with
    | some secondClass =>
      simp only [firstKnown, secondKnown] at same
      rw [String.append_assoc] at same
      exact absurd same.symm (debugName_ne_unknown secondClass _)
    | none =>
      simp only [firstKnown, secondKnown] at same
      exact unknown_injective same

theorem inReport_errors (pipeline : TelemetryPipeline Count) (errorClass : Int) :
    (Quantity.errors errorClass).inReport pipeline.finalize =
      (pipeline.cumulative.errors.lookup errorClass).getD 0 := by
  have listed :
      pipeline.errorBreakdown.Perm
        (pipeline.cumulative.errors.toPairs.map (fun entry =>
          { errorClass := errorClassName entry.1, count := entry.2 })) :=
    List.perm_insertionSort _ _
  have named :
      (fun entry : Int × Count =>
          decide (errorClassName entry.1 = errorClassName errorClass)) =
        (fun entry => decide (entry.1 = errorClass)) := by
    funext entry
    exact decide_eq_decide.mpr errorClassName_injective.eq_iff
  have counted :
      (Quantity.errors errorClass).inReport pipeline.finalize =
        ((pipeline.errorBreakdown.filter (fun entry =>
          entry.errorClass = errorClassName errorClass)).map ErrorClassCount.count).sum :=
    rfl
  rw [counted, ((listed.filter _).map _).sum_eq, List.filter_map, List.map_map,
    ← HashMap.sum_filter_toPairs, ← named]
  rfl

theorem inReport_finalize (pipeline : TelemetryPipeline Count) (quantity : Quantity) :
    quantity.inReport pipeline.finalize = quantity.inMetrics pipeline.cumulative := by
  cases quantity with
  | errors errorClass => exact inReport_errors pipeline errorClass
  | _ => rfl

/-! ## The conserved counts -/

/-- After any history of batches, the final report, the batches themselves and the epoch
accumulators behind the timeline carry the same amount of every quantity, and the worker
accumulators carry what the batches with a worker id do. -/
theorem ingestAll_conserves (runId : String) (bucketCount : Nat) (windowEpochs : Int)
    (batches : List (MetricBatch Count)) (quantity : Quantity) :
    let pipeline := (new runId bucketCount windowEpochs).ingestAll batches
    let carried := fun batch => quantity.inBatch (max bucketCount 1) batch
    quantity.inReport pipeline.finalize = (batches.map carried).sum ∧
      pipeline.epochs.sumValues (fun metrics => quantity.inMetrics metrics) =
        (batches.map carried).sum ∧
      pipeline.workers.sumValues (fun metrics => quantity.inMetrics metrics) =
        ((batches.filter (fun batch => batch.workerId ≠ "")).map carried).sum := by
  intro pipeline carried
  have holds := holds_ingestAll runId bucketCount windowEpochs batches
  refine ⟨?_, ?_, ?_⟩
  · rw [inReport_finalize, holds.cumulative, Metrics.inMetrics_gathered]
  · rw [holds.epochs, sumValues_collect]
    simp [epochKey, carried]
  · rw [holds.workers, sumValues_collect]
    congr 2
    apply List.filter_congr
    intro batch _
    by_cases anonymous : batch.workerId = ""
    · simp [workerKey, anonymous]
    · simp [workerKey, anonymous]

end TelemetryPipeline

end Strobengine.Distributed.Master
