import Strobengine.Distributed.Master.Pipeline.Overflow
import Strobengine.Distributed.Master.Pipeline.Publication

/-!
# Times that overflow

The times of a pipeline come from the window starts of the batches and from the length of the
sliding window.
-/

namespace Strobengine.Distributed.Master

open Rust
open Master.Metrics (gathered)
open Proto (MetricBatch)

namespace TelemetryPipeline

/-- The times of a snapshot that ends at an epoch fit; the run started at `first`. -/
structure SnapshotFits (windowEpochs first epoch : Int) : Prop where
  span : FitsInt64 ((windowEpochs - 1) * epochMs)
  windowStart : FitsInt64 (epoch - (windowEpochs - 1) * epochMs)
  elapsed : first ≤ epoch → FitsInt64 (epoch - first)

section Snapshot

variable (build : Build) {run : String} {width : Nat}
  {history : List (MetricBatch Nat)} {pipeline : TelemetryPipeline Nat}
  (holds : Holds run width history pipeline) (fits : (gathered width history).Fits)
  {first epoch : Int} (positive : 1 ≤ pipeline.windowEpochs)
  (started : pipeline.startedAtMs = some first)
  (times : SnapshotFits pipeline.windowEpochs first epoch)

include holds fits positive times in
theorem windowMetricsIn_of_fits :
    pipeline.windowMetricsIn build epoch = .ok (pipeline.windowMetrics epoch) := by
  have nonnegative : 0 ≤ (pipeline.windowEpochs - 1) * epochMs := by
    unfold epochMs
    omega
  have length : FitsInt64 (pipeline.windowEpochs - 1) := by
    have span := times.span
    unfold FitsInt64 epochMs at *
    omega
  rw [windowMetricsIn, build.int64_of_fits length, ok_bind, build.int64_of_fits times.span,
    ok_bind, build.int64_of_fits times.windowStart, ok_bind, if_neg (by omega), windowMetrics,
    holds.bucketCount]
  apply foldlM_eq_ok
  intro before entry after split
  apply Metrics.mergeIn_of_fits
  have selected : (before ++ entry :: after).Sublist pipeline.sortedEpochs :=
    split ▸ List.filter_sublist
  have merged : (before ++ [entry]).Sublist pipeline.sortedEpochs :=
    (((List.nil_sublist after).cons_cons entry).append_left before).trans selected
  have aggregates := aggregates_merged_epochs holds merged
  rw [List.foldl_concat] at aggregates
  exact aggregates.fits fits

include started in
theorem elapsedSecsIn_of_fits (elapsed : first ≤ epoch → FitsInt64 (epoch - first)) :
    pipeline.elapsedSecsIn build epoch = .ok (pipeline.elapsedSecs epoch) := by
  rw [elapsedSecsIn, elapsedSecs, started]
  by_cases before : first ≤ epoch
  · simp only [if_pos before]
    rw [build.int64_of_fits (elapsed before)]
    rfl
  · simp only [if_neg before]

include holds fits positive started times in
theorem snapshotIn_of_fits : pipeline.snapshotIn build epoch = .ok (pipeline.snapshot epoch) := by
  have window := (aggregates_window holds epoch).fits fits
  rw [snapshotIn, windowMetricsIn_of_fits build holds fits positive times, ok_bind,
    Metrics.latencyIn_of_fits build window, ok_bind,
    elapsedSecsIn_of_fits build started times.elapsed, ok_bind]
  rfl

theorem snapshotFits_of_snapshotIn
    {snapshot : LiveSnapshot Nat} (taken : pipeline.snapshotIn .debug epoch = .ok snapshot)
    (started : pipeline.startedAtMs = some first) :
    SnapshotFits pipeline.windowEpochs first epoch := by
  simp only [snapshotIn, windowMetricsIn, bind_eq_ok_iff, Build.int64_debug_eq_ok_iff] at taken
  obtain ⟨window, ⟨_, ⟨_, rfl⟩, _, ⟨span, rfl⟩, _, ⟨windowStart, rfl⟩, _⟩, _, _, elapsed,
    passed, _⟩ := taken
  refine ⟨span, windowStart, ?_⟩
  intro before
  rw [elapsedSecsIn, started] at passed
  simp only [if_pos before, bind_eq_ok_iff, Build.int64_debug_eq_ok_iff] at passed
  obtain ⟨_, ⟨fits, _⟩, _⟩ := passed
  exact fits

end Snapshot

section Ingest

variable (build : Build) {run : String} {width : Nat}
  {history : List (MetricBatch Nat)} {pipeline : TelemetryPipeline Nat}
  (holds : Holds run width history pipeline) {batch : MetricBatch Nat}
  (fits : (gathered width (history ++ [batch])).Fits)

include fits in
theorem mergeBatchIn_lookup
    {Key : Type} [DecidableEq Key] {key : MetricBatch Nat → Option Key}
    {table : HashMap Key (Metrics Nat)}
    (held : table = history.foldl (HashMap.collect key (.new width) Metrics.mergeBatch) ∅)
    (group : Key) :
    Metrics.mergeBatchIn build ((table.lookup group).getD (.new width)) batch =
      .ok (((table.lookup group).getD (.new width)).mergeBatch batch) := by
  have collected :
      (table.lookup group).getD (.new width) =
        gathered width (HashMap.members key group history) := by
    rw [held, HashMap.lookup_foldl_collect]
    unfold HashMap.accumulated
    by_cases empty : HashMap.members key group history = []
    · rw [if_pos empty, empty]
      rfl
    · rw [if_neg empty]
      rfl
  apply Metrics.mergeBatchIn_of_fits
  rw [collected, ← Metrics.gathered_concat]
  exact Metrics.fits_of_subperm fits (List.filter_sublist.append_right [batch]).subperm

include holds fits in
theorem mergedIn_of_fits (count : FitsUInt64 (history.length + 1)) :
    pipeline.mergedIn build batch (epochOf batch.windowStartUnixMs) =
      .ok
        { (pipeline.ingest batch).1 with lastPublishedEpoch := pipeline.lastPublishedEpoch } := by
  have ofEpoch := mergeBatchIn_lookup build fits holds.epochs (epochOf batch.windowStartUnixMs)
  have ofWorker := mergeBatchIn_lookup build fits holds.workers batch.workerId
  have workers : pipeline.workersIn build batch = .ok (pipeline.ingest batch).1.workers := by
    rw [workersIn, ingest_fst, holds.bucketCount]
    by_cases anonymous : batch.workerId = ""
    · simp only [if_pos anonymous]
    · simp only [if_neg anonymous, ofWorker]
      rfl
  have cumulative :
      pipeline.cumulative.mergeBatchIn build batch =
        .ok (pipeline.cumulative.mergeBatch batch) := by
    apply Metrics.mergeBatchIn_of_fits
    rw [holds.cumulative, ← Metrics.gathered_concat]
    exact fits
  have batches : build.uint64 (pipeline.batches + 1) = .ok (pipeline.batches + 1) := by
    apply build.uint64_of_fits
    rw [holds.batches]
    exact count
  rw [mergedIn, holds.bucketCount, ofEpoch, ok_bind, workers, ok_bind, cumulative, ok_bind,
    batches, ok_bind, ingest_fst, holds.bucketCount]
  rfl

include holds fits in
theorem ingestIn_of_fits
    (positive : 1 ≤ pipeline.windowEpochs) (count : FitsUInt64 (history.length + 1))
    (epoch : FitsInt64 (epochOf batch.windowStartUnixMs))
    (times :
      SnapshotFits pipeline.windowEpochs
        (pipeline.startedAtMs.getD (epochOf batch.windowStartUnixMs))
        (epochOf batch.windowStartUnixMs)) :
    pipeline.ingestIn build batch = .ok (pipeline.ingest batch) := by
  have started :
      (pipeline.ingest batch).1.startedAtMs =
        some (pipeline.startedAtMs.getD (epochOf batch.windowStartUnixMs)) := by
    rw [ingest_fst]
  have window : (pipeline.ingest batch).1.windowEpochs = pipeline.windowEpochs := by
    rw [ingest_fst]
  have snapshot :
      (pipeline.ingest batch).1.snapshotIn build (epochOf batch.windowStartUnixMs) =
        .ok ((pipeline.ingest batch).1.snapshot (epochOf batch.windowStartUnixMs)) := by
    apply snapshotIn_of_fits build (holds.ingest batch) fits _ started
    · rw [window]
      exact times
    · rw [window]
      exact positive
  have start : epochOfIn build batch.windowStartUnixMs = .ok (epochOf batch.windowStartUnixMs) :=
    build.int64_of_fits epoch
  rw [ingestIn, start, ok_bind, mergedIn_of_fits build holds fits count, ok_bind]
  by_cases published : pipeline.lastPublishedEpoch = some (epochOf batch.windowStartUnixMs)
  · rw [if_pos published, ingest, if_pos published]
    rfl
  · rw [ingest, if_neg published] at snapshot
    rw [if_neg published, ingest, if_neg published]
    simp only [snapshot, ok_bind]
    rfl

omit holds fits in
theorem fits_of_ingestIn {ingested : TelemetryPipeline Nat × Option (LiveSnapshot Nat)}
    (succeeded : pipeline.ingestIn .debug batch = .ok ingested) :
    FitsInt64 (epochOf batch.windowStartUnixMs) ∧ FitsUInt64 (pipeline.batches + 1) ∧
      (pipeline.lastPublishedEpoch ≠ some (epochOf batch.windowStartUnixMs) →
        SnapshotFits pipeline.windowEpochs
          (pipeline.startedAtMs.getD (epochOf batch.windowStartUnixMs))
          (epochOf batch.windowStartUnixMs)) := by
  rw [ingestIn, bind_eq_ok_iff] at succeeded
  obtain ⟨epoch, start, succeeded⟩ := succeeded
  obtain ⟨fits, rfl⟩ := Build.int64_debug_eq_ok_iff.mp start
  rw [bind_eq_ok_iff] at succeeded
  obtain ⟨merged, merges, succeeded⟩ := succeeded
  simp only [mergedIn, bind_eq_ok_iff, Build.uint64_debug_eq_ok_iff] at merges
  obtain ⟨_, _, _, _, _, _, _, ⟨count, _⟩, same⟩ := merges
  cases same
  refine ⟨fits, count, ?_⟩
  intro unpublished
  have other : ¬pipeline.lastPublishedEpoch =
      some (batch.windowStartUnixMs - batch.windowStartUnixMs.emod epochMs) := unpublished
  rw [if_neg other, bind_eq_ok_iff] at succeeded
  obtain ⟨snapshot, taken, _⟩ := succeeded
  have times := snapshotFits_of_snapshotIn taken rfl
  exact times

end Ingest

/-! ## Lists of batches -/

/-- The batches can be ingested: their number fits, and so do the times of the snapshots
at their epochs. -/
structure BatchesFit (windowEpochs : Int) (batches : List (MetricBatch Nat)) : Prop where
  count : FitsUInt64 batches.length
  snapshots :
    ∀ first ∈ batches.head?, ∀ batch ∈ batches,
      SnapshotFits windowEpochs (epochOf first.windowStartUnixMs)
        (epochOf batch.windowStartUnixMs)

theorem epochOf_le (unixMs : Int) : epochOf unixMs ≤ unixMs := by
  have remainder : 0 ≤ unixMs.emod epochMs := Int.emod_nonneg unixMs (by decide)
  unfold epochOf
  omega

theorem SnapshotFits.epoch
    {windowEpochs first unixMs : Int} (times : SnapshotFits windowEpochs first (epochOf unixMs))
    (positive : 1 ≤ windowEpochs) (fits : FitsInt64 unixMs) : FitsInt64 (epochOf unixMs) := by
  have windowStart := times.windowStart
  have before := epochOf_le unixMs
  unfold FitsInt64 epochMs at *
  omega

section Batches

variable {run : String} {width : Nat} {history : List (MetricBatch Nat)}
  {pipeline : TelemetryPipeline Nat}

theorem startedAtMs_getD (holds : Holds run width history pipeline) (batch : MetricBatch Nat)
    {later : List (MetricBatch Nat)} {first : MetricBatch Nat}
    (head : first ∈ (history ++ batch :: later).head?) :
    pipeline.startedAtMs.getD (epochOf batch.windowStartUnixMs) =
      epochOf first.windowStartUnixMs := by
  rw [holds.startedAtMs]
  cases history with
  | nil | cons =>
    cases head
    rfl

theorem exists_batch_of_published
    {pipeline : TelemetryPipeline Nat} (unpublished : pipeline.lastPublishedEpoch = none)
    {batches : List (MetricBatch Nat)} {epoch : Int}
    (published : (pipeline.ingestAll batches).lastPublishedEpoch = some epoch) :
    ∃ batch ∈ batches, epochOf batch.windowStartUnixMs = epoch := by
  induction batches using List.reverseRecOn with
  | nil =>
    rw [show pipeline.ingestAll [] = pipeline from rfl, unpublished] at published
    cases published
  | append_singleton batches batch =>
    rw [ingestAll, List.foldl_concat, ingest_lastPublishedEpoch] at published
    exact ⟨batch, List.mem_append_right _ List.mem_cons_self, Option.some.inj published⟩

theorem BatchesFit.of_append {windowEpochs : Int} {before after : List (MetricBatch Nat)}
    (times : BatchesFit windowEpochs (before ++ after)) : BatchesFit windowEpochs before where
  count := times.count.mono (by simp)
  snapshots := by
    intro first head batch member
    apply times.snapshots first _ batch (List.mem_append_left _ member)
    rwa [List.head?_append_of_ne_nil _ (List.ne_nil_of_mem member)]

theorem exists_first {batches : List (MetricBatch Nat)} (nonempty : batches ≠ []) :
    ∃ first, first ∈ batches.head? := by
  cases batches with
  | nil => exact absurd rfl nonempty
  | cons first => exact ⟨first, rfl⟩

variable (build : Build) (runId : String) (bucketCount : Nat) (windowEpochs : Int)

theorem windowEpochs_ingestAll_new (batches : List (MetricBatch Nat)) :
    ((new runId bucketCount windowEpochs).ingestAll batches).windowEpochs = max windowEpochs 1 := by
  rw [ingestAll_windowEpochs]
  rfl

section Step

variable {earlier : List (MetricBatch Nat)} {batch : MetricBatch Nat}

theorem ingestIn_of_batchesFit (start : FitsInt64 batch.windowStartUnixMs)
    (fits : (gathered (max bucketCount 1) (earlier ++ [batch])).Fits)
    (times : BatchesFit (max windowEpochs 1) (earlier ++ [batch])) :
    ((new runId bucketCount windowEpochs).ingestAll earlier).ingestIn build batch =
      .ok (((new runId bucketCount windowEpochs).ingestAll earlier).ingest batch) := by
  have holds := holds_ingestAll runId bucketCount windowEpochs earlier
  have window := windowEpochs_ingestAll_new runId bucketCount windowEpochs earlier
  obtain ⟨first, head⟩ := exists_first (List.append_ne_nil_of_right_ne_nil earlier
    (List.cons_ne_nil batch []))
  have snapshot := times.snapshots first head batch (List.mem_append_right _ List.mem_cons_self)
  apply ingestIn_of_fits build holds fits
  · rw [window]
    exact le_max_right _ _
  · simpa using times.count
  · exact snapshot.epoch (le_max_right _ _) start
  · rw [window, startedAtMs_getD holds batch head]
    exact snapshot

theorem batchesFit_of_ingestIn (times : BatchesFit (max windowEpochs 1) earlier)
    {ingested : TelemetryPipeline Nat × Option (LiveSnapshot Nat)}
    (succeeded :
      ((new runId bucketCount windowEpochs).ingestAll earlier).ingestIn .debug batch =
        .ok ingested) :
    BatchesFit (max windowEpochs 1) (earlier ++ [batch]) := by
  have holds := holds_ingestAll runId bucketCount windowEpochs earlier
  obtain ⟨_, count, unpublished⟩ := fits_of_ingestIn succeeded
  rw [holds.batches] at count
  rw [windowEpochs_ingestAll_new] at unpublished
  have known :
      ∀ first ∈ (earlier ++ [batch]).head?, ∀ other ∈ earlier,
        SnapshotFits (max windowEpochs 1) (epochOf first.windowStartUnixMs)
          (epochOf other.windowStartUnixMs) := by
    intro first head other member
    apply times.snapshots first _ other member
    rwa [List.head?_append_of_ne_nil _ (List.ne_nil_of_mem member)] at head
  refine ⟨by simpa using count, ?_⟩
  intro first head other member
  rcases List.mem_append.mp member with earlier | last
  · exact known first head other earlier
  · rw [List.mem_singleton.mp last]
    by_cases published :
        ((new runId bucketCount windowEpochs).ingestAll earlier).lastPublishedEpoch =
          some (epochOf batch.windowStartUnixMs)
    -- an epoch that is not published again was published for an earlier batch
    · obtain ⟨publisher, member, same⟩ := exists_batch_of_published rfl published
      rw [← same]
      exact known first head publisher member
    · rw [← startedAtMs_getD holds batch head]
      exact unpublished published

end Step

variable {batches : List (MetricBatch Nat)}
  (starts : ∀ batch ∈ batches, FitsInt64 batch.windowStartUnixMs)
  (fits : (gathered (max bucketCount 1) batches).Fits)

include starts fits in
theorem ingestAllIn_of_fits (times : BatchesFit (max windowEpochs 1) batches) :
    (new runId bucketCount windowEpochs).ingestAllIn build batches =
      .ok ((new runId bucketCount windowEpochs).ingestAll batches) := by
  apply foldlM_eq_ok
  intro before batch after split
  have split' : batches = (before ++ [batch]) ++ after := by
    rw [split, List.append_assoc]
    rfl
  rw [split'] at starts fits times
  have start := starts batch (by simp)
  have fits' := Metrics.fits_of_subperm fits (List.sublist_append_left _ _).subperm
  have exact :=
    ingestIn_of_batchesFit build runId bucketCount windowEpochs start fits' times.of_append
  change (ingestIn build ((new runId bucketCount windowEpochs).ingestAll before) batch >>= _) = _
  rw [exact]
  rfl

include starts fits in
theorem batchesFit_of_ingestAllIn {final : TelemetryPipeline Nat}
    (succeeded : (new runId bucketCount windowEpochs).ingestAllIn .debug batches = .ok final) :
    BatchesFit (max windowEpochs 1) batches := by
  induction batches using List.reverseRecOn generalizing final with
  | nil =>
    refine ⟨by decide, ?_⟩
    intro first head
    cases head
  | append_singleton earlier batch ih =>
    have fits' : (gathered (max bucketCount 1) earlier).Fits :=
      Metrics.fits_of_subperm fits (List.sublist_append_left _ _).subperm
    have starts' : ∀ other ∈ earlier, FitsInt64 other.windowStartUnixMs :=
      fun other member => starts other (List.mem_append_left _ member)
    rw [ingestAllIn, List.foldlM_append, bind_eq_ok_iff] at succeeded
    obtain ⟨middle, before, last⟩ := succeeded
    have times := ih starts' fits' before
    have exact := ingestAllIn_of_fits .debug runId bucketCount windowEpochs starts' fits' times
    rw [ingestAllIn, before] at exact
    cases exact
    rw [List.foldlM_cons, bind_eq_ok_iff] at last
    obtain ⟨_, stepped, _⟩ := last
    obtain ⟨ingested, stepped, _⟩ := bind_eq_ok_iff.mp stepped
    exact batchesFit_of_ingestIn runId bucketCount windowEpochs times stepped

end Batches

section Report

variable {run : String} {width : Nat} {history : List (MetricBatch Nat)}
  {pipeline : TelemetryPipeline Nat} (holds : Holds run width history pipeline)

include holds in
theorem exists_batch_of_mem_sortedEpochs
    {entry : Int × Metrics Nat} (member : entry ∈ pipeline.sortedEpochs) :
    ∃ batch ∈ history, epochOf batch.windowStartUnixMs = entry.1 := by
  obtain ⟨nonempty, _⟩ := gathered_of_mem_sortedEpochs holds member
  obtain ⟨batch, grouped⟩ := List.exists_mem_of_ne_nil _ nonempty
  obtain ⟨known, same⟩ := List.mem_filter.mp grouped
  exact ⟨batch, known, by simpa [epochKey] using same⟩

/-- The span from the first epoch to the end of any other epoch fits. -/
def SpansFit (batches : List (MetricBatch Nat)) : Prop :=
  ∀ first ∈ batches.head?, ∀ batch ∈ batches,
    epochOf first.windowStartUnixMs ≤ epochOf batch.windowStartUnixMs →
      FitsInt64
        (epochOf batch.windowStartUnixMs - epochOf first.windowStartUnixMs + epochMs)

theorem fitsInt64_of_span {elapsed : Int} (nonnegative : 0 ≤ elapsed)
    (fits : FitsInt64 (elapsed + epochMs)) : FitsInt64 elapsed := by
  unfold FitsInt64 epochMs at *
  omega

include holds in
theorem spanFits_of_mem (spans : SpansFit history) {entry : Int × Metrics Nat}
    (member : entry ∈ pipeline.sortedEpochs) {first : Int}
    (started : pipeline.startedAtMs = some first) (before : first ≤ entry.1) :
    FitsInt64 (entry.1 - first + epochMs) := by
  obtain ⟨batch, known, same⟩ := exists_batch_of_mem_sortedEpochs holds member
  rw [holds.startedAtMs] at started
  obtain ⟨head, found, rfl⟩ := Option.map_eq_some_iff.mp started
  rw [← same] at before ⊢
  exact spans head found batch known before

variable (build : Build) (spans : SpansFit history)

include holds spans in
theorem durationSecsIn_of_fits : pipeline.durationSecsIn build = .ok pipeline.durationSecs := by
  unfold durationSecsIn durationSecs
  cases started : pipeline.startedAtMs with
  | none => rfl
  | some first =>
    cases found : pipeline.sortedEpochs.getLast? with
    | none => rfl
    | some entry =>
      by_cases before : first ≤ entry.1
      · have span := spanFits_of_mem holds spans (List.mem_of_getLast? found) started before
        simp only [if_pos before]
        rw [build.int64_of_fits (fitsInt64_of_span (by omega) span), ok_bind,
          build.int64_of_fits span]
        rfl
      · simp only [if_neg before]

variable (fits : (gathered width history).Fits)

include holds spans fits in
theorem timelineIn_of_fits : pipeline.timelineIn build = .ok pipeline.timeline := by
  apply mapM_eq_ok
  intro entry member
  have elapsed : pipeline.elapsedSecsIn build entry.1 = .ok (pipeline.elapsedSecs entry.1) := by
    cases started : pipeline.startedAtMs with
    | none => rw [elapsedSecsIn, elapsedSecs, started]
    | some =>
      apply elapsedSecsIn_of_fits build started
      intro before
      exact fitsInt64_of_span (by omega) (spanFits_of_mem holds spans member started before)
  rw [Metrics.latencyIn_of_fits build ((aggregates_epoch holds member).fits fits), ok_bind, elapsed]
  rfl

include holds fits in
theorem workerSharesIn_of_fits (durationSecs : ℚ) :
    pipeline.workerSharesIn build durationSecs = .ok (pipeline.workerShares durationSecs) := by
  have shares :
      pipeline.workers.toPairs.mapM (fun entry => do
          let latency ← entry.2.latencyIn build
          pure
            ({ workerId := entry.1
               totalRequests := entry.2.total
               successCount := entry.2.success
               failureCount := entry.2.failure
               errorRatePercent := entry.2.errorRatePercent
               rps := if 0 < durationSecs then (entry.2.total : ℚ) / durationSecs else 0
               sharePercent :=
                 if 0 < pipeline.cumulative.total then
                   (entry.2.total : ℚ) / pipeline.cumulative.total * 100
                 else 0
               p95Ms := latency.p95Ms } : WorkerShare Nat)) =
        .ok
          (pipeline.workers.toPairs.map (fun entry =>
            workerShare pipeline.cumulative.total durationSecs entry.1 entry.2)) := by
    apply mapM_eq_ok
    intro entry member
    have found := (HashMap.mem_toPairs_iff _ entry.1 entry.2).mp member
    rw [Metrics.latencyIn_of_fits build ((aggregates_worker holds found).fits fits)]
    rfl
  rw [workerSharesIn, shares]
  rfl

include holds spans fits in
theorem finalizeIn_of_fits : pipeline.finalizeIn build = .ok pipeline.finalize := by
  have cumulative := (aggregates_cumulative holds).fits fits
  rw [finalizeIn, Metrics.latencyIn_of_fits build cumulative, ok_bind,
    durationSecsIn_of_fits holds build spans, ok_bind,
    timelineIn_of_fits holds build spans fits, ok_bind,
    workerSharesIn_of_fits holds build fits, ok_bind]
  rfl

omit build spans fits in
include holds in
theorem spansFit_of_finalizeIn
    {report : GlobalReport Nat} (succeeded : pipeline.finalizeIn .debug = .ok report) :
    SpansFit history := by
  simp only [finalizeIn, bind_eq_ok_iff] at succeeded
  obtain ⟨_, _, duration, computed, _⟩ := succeeded
  intro first head batch member before
  obtain ⟨last, found, latest⟩ := exists_last_epoch holds (List.ne_nil_of_mem member)
  have after := latest batch member
  have started : pipeline.startedAtMs = some (epochOf first.windowStartUnixMs) := by
    rw [holds.startedAtMs, Option.mem_def.mp head]
    rfl
  rw [List.getLast?_map] at found
  obtain ⟨entry, ends, rfl⟩ := Option.map_eq_some_iff.mp found
  rw [durationSecsIn, started, ends] at computed
  simp only [if_pos (before.trans after), bind_eq_ok_iff, Build.int64_debug_eq_ok_iff] at computed
  obtain ⟨_, ⟨_, rfl⟩, _, ⟨span, _⟩, _⟩ := computed
  unfold FitsInt64 epochMs at *
  omega

end Report

end TelemetryPipeline

open TelemetryPipeline

/-! ## Runs that keep their report -/

/-- With counters that sum up within 64 bits, nothing overflows and no range is inverted
if and only if all times fit. In that case both builds report what the exact model
reports. -/
theorem report_without_panic_iff
    (config : MasterConfig) (runId : String) {batches : List (MetricBatch Nat)}
    (starts : ∀ batch ∈ batches, FitsInt64 batch.windowStartUnixMs)
    (fits : (gathered (max config.histogramBucketCount 1) batches).Fits) :
    ((∃ report, (config.pipeline runId).reportIn .debug batches = .ok report) ↔
        BatchesFit (max config.windowEpochs 1) batches ∧
          SpansFit batches) ∧
      (BatchesFit (max config.windowEpochs 1) batches ∧
          SpansFit batches →
        ∀ build,
          (config.pipeline runId).reportIn build batches =
            .ok ((config.pipeline runId).ingestAll batches).finalize) := by
  have holds := holds_ingestAll runId config.histogramBucketCount config.windowEpochs batches
  have exact :
      BatchesFit (max config.windowEpochs 1) batches ∧
          SpansFit batches →
        ∀ build,
          (config.pipeline runId).reportIn build batches =
            .ok ((config.pipeline runId).ingestAll batches).finalize := by
    rintro ⟨times, spans⟩ build
    have ingested :=
      ingestAllIn_of_fits build runId config.histogramBucketCount
        config.windowEpochs starts fits times
    rw [reportIn, MasterConfig.pipeline, ingested, ok_bind]
    exact finalizeIn_of_fits holds build spans fits
  refine ⟨⟨?_, fun times => ⟨_, exact times .debug⟩⟩, exact⟩
  rintro ⟨report, succeeded⟩
  obtain ⟨final, before, last⟩ := bind_eq_ok_iff.mp succeeded
  have times :=
    batchesFit_of_ingestAllIn runId config.histogramBucketCount
      config.windowEpochs starts fits before
  have ingested :=
    ingestAllIn_of_fits .debug runId config.histogramBucketCount
      config.windowEpochs starts fits times
  have same := before.symm.trans ingested
  cases same
  exact ⟨times, spansFit_of_finalizeIn holds last⟩

theorem fits_sampleWindow (workerId : String) (start : Int) :
    (gathered 10 [sampleWindow workerId start]).Fits := by
  have anywhere : gathered 10 [sampleWindow workerId start] = gathered 10 [sampleWindow "" 0] := rfl
  rw [anywhere]
  have samples :
      FitsUInt64 (gathered 10 [sampleWindow "" 0]).buckets.sum := by
    decide
  refine ⟨?_, samples⟩
  intro quantity
  cases quantity with
  | bucket index => exact samples.mono (Metrics.bucket_le_sum _ index)
  | errors errorClass =>
    have amount : (Quantity.errors errorClass).inMetrics
        (gathered 10 [sampleWindow "" 0]) ≤ 1 := by
      rw [Metrics.inMetrics_gathered]
      by_cases known : (7 : Int) = errorClass
      · simp [Quantity.inBatch, sampleWindow, known]
      · simp [Quantity.inBatch, sampleWindow, known]
    exact FitsUInt64.mono (by decide : FitsUInt64 1) amount
  | _ => decide

/-- A window that starts less than five seconds above the smallest time: a debug build
overflows, a release build asks for a range that starts behind its end. -/
theorem early_window_panics :
    (MasterConfig.sample 30).validate (fun _ => .ok ()) = .ok () ∧
      FitsInt64 (-9223372036854775000) ∧
      (gathered 10 [sampleWindow "a" (-9223372036854775000)]).Fits ∧
      ((MasterConfig.sample 30).pipeline "run").reportIn .debug
          [sampleWindow "a" (-9223372036854775000)] = .error .overflow ∧
      ((MasterConfig.sample 30).pipeline "run").reportIn .release
          [sampleWindow "a" (-9223372036854775000)] =
        .error .invertedRange :=
  ⟨by decide +kernel, by decide, fits_sampleWindow _ _, by decide +kernel, by decide +kernel⟩

theorem report_without_panic_iff_sample :
    ((MasterConfig.sample 30).pipeline "run").reportIn .debug
        [sampleWindow "a" 5000] =
      .ok
        (((MasterConfig.sample 30).pipeline "run").ingestAll
          [sampleWindow "a" 5000]).finalize := by
  have starts :
      ∀ batch ∈ [sampleWindow "a" 5000], FitsInt64 batch.windowStartUnixMs := by
    decide
  have times :
      BatchesFit (max (MasterConfig.sample 30).windowEpochs 1)
        [sampleWindow "a" 5000] := by
    refine ⟨by decide, ?_⟩
    intro first head batch member
    cases head
    rw [List.mem_singleton.mp member]
    exact ⟨by decide, by decide, fun _ => by decide⟩
  have spans : SpansFit [sampleWindow "a" 5000] := by
    intro first head batch member before
    cases head
    rw [List.mem_singleton.mp member]
    decide
  exact
    (report_without_panic_iff (MasterConfig.sample 30) "run" starts
      (fits_sampleWindow "a" 5000)).2 ⟨times, spans⟩ .debug

end Strobengine.Distributed.Master
