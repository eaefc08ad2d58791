import Strobengine.Distributed.Master.Pipeline.Conservation

/-!
# The order in which batches arrive

What the accumulators hold does not depend on the order of the batches; the start of the run does,
since it is the epoch of the batch that arrives first.
-/

namespace Strobengine.Distributed.Master

open Rust
open Proto (MetricBatch LatencySummary)

namespace Metrics

variable {Count : Type} [Counter Count]

/-! ## Accumulators that are read alike -/

/-- Two accumulators hold the same; only the order of their error maps may differ. -/
structure Alike (first second : Metrics Count) : Prop where
  amounts : ∀ quantity : Quantity, quantity.inMetrics first = quantity.inMetrics second
  width : first.buckets.length = second.buckets.length
  minMs : first.minMs = second.minMs
  maxMs : first.maxMs = second.maxMs
  classes : ∀ errorClass, errorClass ∈ first.errors ↔ errorClass ∈ second.errors

namespace Alike

variable {first second : Metrics Count}

theorem total (alike : first.Alike second) : first.total = second.total :=
  alike.amounts .requests

theorem success (alike : first.Alike second) : first.success = second.success :=
  alike.amounts .successes

theorem failure (alike : first.Alike second) : first.failure = second.failure :=
  alike.amounts .failures

theorem buckets (alike : first.Alike second) : first.buckets = second.buckets := by
  apply List.ext_getElem alike.width
  intro index inside inside'
  have amount := alike.amounts (.bucket index)
  simpa [Quantity.inMetrics, inside, inside'] using amount

theorem latency (alike : first.Alike second) : first.latency = second.latency := by
  have samples : first.sampleCount = second.sampleCount := alike.amounts .samples
  simp only [Metrics.latency, alike.buckets, alike.minMs, alike.maxMs, samples]

theorem errorRatePercent (alike : first.Alike second) :
    first.errorRatePercent = second.errorRatePercent := by
  simp only [Metrics.errorRatePercent, alike.total, alike.failure]

theorem lookup_errors (alike : first.Alike second) (errorClass : Int) :
    first.errors.lookup errorClass = second.errors.lookup errorClass := by
  have amount : (first.errors.lookup errorClass).getD 0 =
      (second.errors.lookup errorClass).getD 0 :=
    alike.amounts (.errors errorClass)
  have present :
      (first.errors.lookup errorClass).isSome = (second.errors.lookup errorClass).isSome := by
    rw [Bool.eq_iff_iff, AList.lookup_isSome, AList.lookup_isSome]
    exact alike.classes errorClass
  cases found : first.errors.lookup errorClass with
  | none =>
    rw [found] at present
    exact (Option.not_isSome_iff_eq_none.mp (by simp [← present])).symm
  | some =>
    rw [found] at present amount
    obtain ⟨other, found'⟩ := Option.isSome_iff_exists.mp present.symm
    rw [found'] at amount ⊢
    exact congrArg some amount

end Alike

def extremeStep (choose : ℚ → ℚ → ℚ) (bound : LatencySummary Count → ℚ)
    (current : Option ℚ) (batch : MetricBatch Count) : Option ℚ :=
  batch.latency.elim current (fun latency => extremum choose current (bound latency))

omit [Counter Count] in
theorem extremeStep_right_comm
    {choose : ℚ → ℚ → ℚ} (swapped : ∀ first second, choose first second = choose second first)
    (reordered :
      ∀ current first second,
        choose (choose current first) second = choose (choose current second) first)
    (bound : LatencySummary Count → ℚ) :
    RightCommutative (extremeStep choose bound) where
  right_comm current first second := by
    unfold extremeStep
    cases first.latency with
    | none => rfl
    | some =>
      cases second.latency with
      | none => rfl
      | some =>
        cases current with
        | none => exact congrArg some (swapped _ _)
        | some => exact congrArg some (reordered _ _ _)

theorem minMs_gathered (bucketCount : Nat) (batches : List (MetricBatch Count)) :
    (gathered bucketCount batches).minMs =
      batches.foldl (extremeStep min LatencySummary.minMs) none := by
  refine (List.foldl_hom Metrics.minMs (fun metrics batch => ?_)).symm
  cases latency : batch.latency <;> simp [mergeBatch, extremeStep, latency]

theorem maxMs_gathered (bucketCount : Nat) (batches : List (MetricBatch Count)) :
    (gathered bucketCount batches).maxMs =
      batches.foldl (extremeStep max LatencySummary.maxMs) none := by
  refine (List.foldl_hom Metrics.maxMs (fun metrics batch => ?_)).symm
  cases latency : batch.latency <;> simp [mergeBatch, extremeStep, latency]

theorem mem_errors_gathered
    (bucketCount : Nat) (batches : List (MetricBatch Count)) (errorClass : Int) :
    errorClass ∈ (gathered bucketCount batches).errors ↔
      ∃ batch ∈ batches, ∃ error ∈ batch.errors, error.errorClass = errorClass := by
  induction batches using List.reverseRecOn with
  | nil => simp [gathered, new]
  | append_singleton batches batch ih =>
    rw [gathered_concat, mergeBatch_errors, HashMap.mem_foldl_entryOr, ih]
    simp [or_and_right, exists_or]

theorem alike_gathered (bucketCount : Nat) {first second : List (MetricBatch Count)}
    (permuted : first.Perm second) :
    (gathered bucketCount first).Alike (gathered bucketCount second) where
  amounts quantity := by
    rw [inMetrics_gathered, inMetrics_gathered]
    exact (permuted.map _).sum_eq
  width := (sized_gathered bucketCount first).trans (sized_gathered bucketCount second).symm
  minMs := by
    have := extremeStep_right_comm min_comm min_right_comm
      (fun latency : LatencySummary Count => latency.minMs)
    rw [minMs_gathered, minMs_gathered]
    exact permuted.foldl_eq none
  maxMs := by
    have := extremeStep_right_comm max_comm max_right_comm
      (fun latency : LatencySummary Count => latency.maxMs)
    rw [maxMs_gathered, maxMs_gathered]
    exact permuted.foldl_eq none
  classes errorClass := by
    rw [mem_errors_gathered, mem_errors_gathered]
    simp only [permuted.mem_iff]

end Metrics

namespace TelemetryPipeline

variable {Count : Type} [Counter Count]

/-! ## Groups of permuted batches -/

theorem map_lookup_collect_eq
    {Key Entry : Type} [DecidableEq Key] (key : MetricBatch Count → Option Key)
    (bucketCount : Nat) {first second : List (MetricBatch Count)}
    (permuted : first.Perm second) {view : Metrics Count → Entry}
    (read : ∀ metrics other : Metrics Count, metrics.Alike other → view metrics = view other)
    (group : Key) :
    (AList.lookup group
        (first.foldl (HashMap.collect key (.new bucketCount) Metrics.mergeBatch) ∅)).map
          view =
      (AList.lookup group
        (second.foldl (HashMap.collect key (.new bucketCount) Metrics.mergeBatch) ∅)).map
          view := by
  have members : (HashMap.members key group first).Perm (HashMap.members key group second) :=
    permuted.filter _
  rw [HashMap.lookup_foldl_collect, HashMap.lookup_foldl_collect]
  unfold HashMap.accumulated
  by_cases empty : HashMap.members key group first = []
  · have empty' : HashMap.members key group second = [] := by
      rw [empty] at members
      exact List.nil_perm.mp members
    rw [if_pos empty, if_pos empty']
  · have nonempty : HashMap.members key group second ≠ [] := by
      intro empty'
      rw [empty'] at members
      exact empty (List.perm_nil.mp members)
    rw [if_neg empty, if_neg nonempty]
    exact congrArg some (read _ _ (Metrics.alike_gathered bucketCount members))

/-! ## Lists in the report -/

theorem ranks_total (first second : Nat × String) : ranks first second ∨ ranks second first := by
  unfold ranks
  rcases Nat.lt_trichotomy first.1 second.1 with fewer | same | more
  · exact Or.inr (Or.inl fewer)
  · rcases String.le_total first.2 second.2 with before | after
    · exact Or.inl (Or.inr ⟨same, before⟩)
    · exact Or.inr (Or.inr ⟨same.symm, after⟩)
  · exact Or.inl (Or.inl more)

theorem ranks_trans {first second third : Nat × String}
    (before : ranks first second) (after : ranks second third) : ranks first third := by
  unfold ranks at *
  rcases before with more | ⟨same, ordered⟩
  · rcases after with more' | ⟨same', _⟩
    · exact Or.inl (more'.trans more)
    · exact Or.inl (same' ▸ more)
  · rcases after with more' | ⟨same', ordered'⟩
    · exact Or.inl (same ▸ more')
    · exact Or.inr ⟨same.trans same', String.le_trans ordered ordered'⟩

theorem name_eq_of_ranks {first second : Nat × String} (before : ranks first second)
    (after : ranks second first) : first.2 = second.2 := by
  unfold ranks at *
  rcases before with more | ⟨_, ordered⟩
  · rcases after with more' | ⟨same, _⟩ <;> omega
  · rcases after with more' | ⟨_, ordered'⟩
    · omega
    · exact String.le_antisymm ordered ordered'

def timelinePoint (startedAtMs : Option Int) (epoch : Int) (metrics : Metrics Count) :
    TimelinePoint :=
  { elapsedSecs :=
      match startedAtMs with
      | some start => if start ≤ epoch then ((epoch - start : Int) : ℚ) / 1000 else 0
      | none => 0
    epochMs := epoch
    rps :=
      if 0 < (epochMs : ℚ) / 1000 then
        (Counter.value metrics.total : ℚ) / ((epochMs : ℚ) / 1000)
      else
        0
    errorRatePercent := metrics.errorRatePercent
    p50Ms := metrics.latency.p50Ms
    p95Ms := metrics.latency.p95Ms
    p99Ms := metrics.latency.p99Ms }

theorem timeline_eq (pipeline : TelemetryPipeline Count) :
    pipeline.timeline =
      (pipeline.epochs.toPairs.map (fun entry =>
        timelinePoint pipeline.startedAtMs entry.1 entry.2)).insertionSort
          (fun first second => first.epochMs ≤ second.epochMs) := by
  exact List.map_insertionSort _ _ _ _ (fun _ _ _ _ => Iff.rfl)

def workerShare (totalAll : Nat) (durationSecs : ℚ) (workerId : String) (metrics : Metrics Count) :
    WorkerShare Count :=
  { workerId
    totalRequests := metrics.total
    successCount := metrics.success
    failureCount := metrics.failure
    errorRatePercent := metrics.errorRatePercent
    rps :=
      if 0 < durationSecs then (Counter.value metrics.total : ℚ) / durationSecs else 0
    sharePercent :=
      if 0 < totalAll then (Counter.value metrics.total : ℚ) / totalAll * 100 else 0
    p95Ms := metrics.latency.p95Ms }

def spanSecs : Option Int → Option Int → ℚ
  | some start, some last => if start ≤ last then ((last - start + epochMs : Int) : ℚ) / 1000 else 0
  | _, _ => 0

omit [Counter Count] in
theorem durationSecs_eq (pipeline : TelemetryPipeline Count) :
    pipeline.durationSecs =
      spanSecs pipeline.startedAtMs (pipeline.sortedEpochs.map Prod.fst).getLast? := by
  unfold durationSecs spanSecs
  rw [List.getLast?_map]
  cases pipeline.startedAtMs with
  | none => rfl
  | some =>
    cases pipeline.sortedEpochs.getLast? with
    | none | some => rfl

section Permuted

variable {run : String} {width : Nat} {first second : List (MetricBatch Count)}
  {pipeline other : TelemetryPipeline Count}
  (holds : Holds run width first pipeline) (holds' : Holds run width second other)
  (permuted : first.Perm second)

include holds holds' permuted

theorem cumulative_alike : pipeline.cumulative.Alike other.cumulative := by
  rw [holds.cumulative, holds'.cumulative]
  exact Metrics.alike_gathered width permuted

theorem map_lookup_epochs_eq {Entry : Type} {view : Metrics Count → Entry}
    (read : ∀ metrics other : Metrics Count, metrics.Alike other → view metrics = view other)
    (epoch : Int) :
    (pipeline.epochs.lookup epoch).map view = (other.epochs.lookup epoch).map view := by
  rw [holds.epochs, holds'.epochs]
  exact map_lookup_collect_eq epochKey width permuted read epoch

theorem map_lookup_workers_eq {Entry : Type} {view : Metrics Count → Entry}
    (read : ∀ metrics other : Metrics Count, metrics.Alike other → view metrics = view other)
    (workerId : String) :
    (pipeline.workers.lookup workerId).map view = (other.workers.lookup workerId).map view := by
  rw [holds.workers, holds'.workers]
  exact map_lookup_collect_eq workerKey width permuted read workerId

theorem sortedEpochs_keys_eq :
    pipeline.sortedEpochs.map Prod.fst = other.sortedEpochs.map Prod.fst := by
  have sorted :
      ∀ pipeline : TelemetryPipeline Count,
        pipeline.sortedEpochs.map Prod.fst =
          (pipeline.epochs.toPairs.map (fun entry => entry.1)).insertionSort
            (fun left right => left ≤ right) :=
    fun pipeline => List.map_insertionSort _ _ _ _ (fun _ _ _ _ => Iff.rfl)
  have same :
      ∀ epoch,
        (pipeline.epochs.lookup epoch).map (fun _ => epoch) =
          (other.epochs.lookup epoch).map (fun _ => epoch) :=
    fun epoch => map_lookup_epochs_eq holds holds' permuted (fun _ _ _ => rfl) epoch
  rw [sorted, sorted]
  exact
    HashMap.insertionSort_toPairs_eq same le_total (fun _ _ _ => le_trans)
      (fun _ _ _ _ => le_antisymm)

theorem timeline_eq_of_startedAtMs (started : pipeline.startedAtMs = other.startedAtMs) :
    pipeline.timeline = other.timeline := by
  have same :
      ∀ epoch,
        (pipeline.epochs.lookup epoch).map (timelinePoint pipeline.startedAtMs epoch) =
          (other.epochs.lookup epoch).map (timelinePoint pipeline.startedAtMs epoch) := by
    intro epoch
    apply map_lookup_epochs_eq holds holds' permuted
    intro metrics other alike
    simp only [timelinePoint, alike.total, alike.errorRatePercent, alike.latency]
  rw [timeline_eq, timeline_eq, ← started]
  exact
    HashMap.insertionSort_toPairs_eq same (fun _ _ => le_total _ _)
      (fun _ _ _ => le_trans) (fun _ _ _ _ => le_antisymm)

theorem workerShares_eq (durationSecs : ℚ) :
    pipeline.workerShares durationSecs = other.workerShares durationSecs := by
  have total := (cumulative_alike holds holds' permuted).total
  have same :
      ∀ workerId,
        (pipeline.workers.lookup workerId).map
            (workerShare (Counter.value pipeline.cumulative.total) durationSecs workerId) =
          (other.workers.lookup workerId).map
            (workerShare (Counter.value other.cumulative.total) durationSecs workerId) := by
    intro workerId
    rw [total]
    apply map_lookup_workers_eq holds holds' permuted
    intro metrics other alike
    simp only [workerShare, alike.total, alike.success, alike.failure,
      alike.errorRatePercent, alike.latency]
  exact
    HashMap.insertionSort_toPairs_eq same (fun _ _ => ranks_total _ _)
      (fun _ _ _ => ranks_trans) (fun _ _ _ _ => name_eq_of_ranks)

theorem workers_keys_eq :
    pipeline.workers.keys.insertionSort (fun left right => left ≤ right) =
      other.workers.keys.insertionSort (fun left right => left ≤ right) := by
  have same :
      ∀ workerId,
        (pipeline.workers.lookup workerId).map (fun _ => workerId) =
          (other.workers.lookup workerId).map (fun _ => workerId) :=
    fun workerId => map_lookup_workers_eq holds holds' permuted (fun _ _ _ => rfl) workerId
  rw [← HashMap.toPairs_keys, ← HashMap.toPairs_keys]
  exact
    HashMap.insertionSort_toPairs_eq same String.le_total (fun _ _ _ => String.le_trans)
      (fun _ _ _ _ => String.le_antisymm)

theorem errorBreakdown_eq : pipeline.errorBreakdown = other.errorBreakdown := by
  have alike := cumulative_alike holds holds' permuted
  have same :
      ∀ errorClass,
        (pipeline.cumulative.errors.lookup errorClass).map
            (ErrorClassCount.mk (errorClassName errorClass)) =
          (other.cumulative.errors.lookup errorClass).map
            (ErrorClassCount.mk (errorClassName errorClass)) :=
    fun errorClass => congrArg _ (alike.lookup_errors errorClass)
  exact
    HashMap.insertionSort_toPairs_eq same (fun _ _ => ranks_total _ _)
      (fun _ _ _ => ranks_trans)
      (fun _ _ _ _ before after =>
        errorClassName_injective (name_eq_of_ranks before after))

theorem finalize_eq_of_startedAtMs (started : pipeline.startedAtMs = other.startedAtMs) :
    pipeline.finalize = other.finalize := by
  have alike := cumulative_alike holds holds' permuted
  have duration : pipeline.durationSecs = other.durationSecs := by
    rw [durationSecs_eq, durationSecs_eq, started, sortedEpochs_keys_eq holds holds' permuted]
  have bytes : pipeline.cumulative.bytes = other.cumulative.bytes := alike.amounts .bytes
  have batches : pipeline.batches = other.batches := by
    rw [holds.batches, holds'.batches, permuted.length_eq]
  unfold finalize
  rw [duration, holds.runId, holds'.runId, batches, bytes,
    workers_keys_eq holds holds' permuted, alike.total, alike.success, alike.failure,
    alike.errorRatePercent, alike.latency, errorBreakdown_eq holds holds' permuted,
    timeline_eq_of_startedAtMs holds holds' permuted started]
  simp only [workerShares_eq holds holds' permuted]

end Permuted

/-! ## The start of the run -/

def firstEpoch (batches : List (MetricBatch Count)) : Option Int :=
  batches.head?.map (fun batch => epochOf batch.windowStartUnixMs)

theorem mem_sortedEpochs_keys
    {run : String} {width : Nat} {history : List (MetricBatch Count)}
    {pipeline : TelemetryPipeline Count} (holds : Holds run width history pipeline)
    {batch : MetricBatch Count} (member : batch ∈ history) :
    epochOf batch.windowStartUnixMs ∈ pipeline.sortedEpochs.map Prod.fst := by
  have grouped : HashMap.members epochKey (epochOf batch.windowStartUnixMs) history ≠ [] := by
    refine List.ne_nil_of_mem (List.mem_filter.mpr ⟨member, ?_⟩)
    simp [epochKey]
  have present : (pipeline.epochs.lookup (epochOf batch.windowStartUnixMs)).isSome := by
    rw [holds.epochs, HashMap.lookup_foldl_collect, HashMap.accumulated, if_neg grouped]
    rfl
  have listed : (pipeline.sortedEpochs.map Prod.fst).Perm pipeline.epochs.keys := by
    rw [← HashMap.toPairs_keys]
    exact (List.perm_insertionSort _ _).map Prod.fst
  rw [listed.mem_iff, ← AList.mem_keys, ← AList.lookup_isSome]
  exact present

omit [Counter Count] in
theorem sortedEpochs_keys_sorted (pipeline : TelemetryPipeline Count) :
    (pipeline.sortedEpochs.map Prod.fst).Pairwise (fun left right => left ≤ right) := by
  have : Std.Total (fun left right : Int × Metrics Count => left.1 ≤ right.1) :=
    ⟨fun _ _ => le_total _ _⟩
  have : IsTrans (Int × Metrics Count) (fun left right => left.1 ≤ right.1) :=
    ⟨fun _ _ _ => le_trans⟩
  exact
    List.pairwise_map.mpr
      (List.pairwise_insertionSort (fun left right : Int × Metrics Count => left.1 ≤ right.1) _)

theorem exists_last_epoch {run : String} {width : Nat} {history : List (MetricBatch Count)}
    {pipeline : TelemetryPipeline Count} (holds : Holds run width history pipeline)
    (nonempty : history ≠ []) :
    ∃ last,
      (pipeline.sortedEpochs.map Prod.fst).getLast? = some last ∧
        ∀ batch ∈ history, epochOf batch.windowStartUnixMs ≤ last := by
  obtain ⟨batch, member⟩ := List.exists_mem_of_ne_nil history nonempty
  have listed := List.ne_nil_of_mem (mem_sortedEpochs_keys holds member)
  refine ⟨_, List.getLast?_eq_some_getLast listed, ?_⟩
  intro batch member
  exact (sortedEpochs_keys_sorted pipeline).rel_getLast (mem_sortedEpochs_keys holds member)

theorem spanSecs_injective
    {start start' last : Int} (before : start ≤ last) (before' : start' ≤ last)
    (same : spanSecs (some start) (some last) = spanSecs (some start') (some last)) :
    start = start' := by
  simp only [spanSecs, if_pos before, if_pos before'] at same
  have spans : last - start + epochMs = last - start' + epochMs := by
    have scaled := (div_left_inj' (by decide : (1000 : ℚ) ≠ 0)).mp same
    exact_mod_cast scaled
  omega

/-- The final reports of a list of batches and of a permutation of it are equal if and
only if the batch that arrives first lies in the same epoch in both orders. -/
theorem finalize_perm_iff (runId : String) (bucketCount : Nat) (windowEpochs : Int)
    {batches permuted : List (MetricBatch Count)} (perm : batches.Perm permuted) :
    ((new runId bucketCount windowEpochs).ingestAll batches).finalize =
        ((new runId bucketCount windowEpochs).ingestAll permuted).finalize ↔
      firstEpoch batches = firstEpoch permuted := by
  have holds := holds_ingestAll runId bucketCount windowEpochs batches
  have holds' := holds_ingestAll runId bucketCount windowEpochs permuted
  constructor
  · intro same
    have durations := congrArg GlobalReport.durationSecs same
    change durationSecs _ = durationSecs _ at durations
    rw [durationSecs_eq, durationSecs_eq, ← sortedEpochs_keys_eq holds holds' perm,
      holds.startedAtMs, holds'.startedAtMs] at durations
    cases batches with
    | nil => rw [List.nil_perm.mp perm]
    | cons first =>
      cases permuted with
      | nil => exact absurd perm.symm (by simp)
      | cons first' =>
        obtain ⟨last, found, latest⟩ := exists_last_epoch holds (by simp)
        rw [found] at durations
        have starts :=
          spanSecs_injective (latest first (by simp))
            (latest first' (perm.mem_iff.mpr (by simp))) durations
        exact congrArg some starts
  · intro same
    apply finalize_eq_of_startedAtMs holds holds' perm
    rw [holds.startedAtMs, holds'.startedAtMs]
    exact same

def sampleWindow (workerId : String) (windowStartUnixMs : Int) : MetricBatch Nat :=
  { workerId
    testRunId := "run"
    batchId := "1"
    windowStartUnixMs
    windowDurationMs := 1000
    totalRequests := 2
    successCount := 1
    failureCount := 1
    bytesReceived := 5
    bytesSent := 0
    activeVus := 1
    latency := some { minMs := 2, maxMs := 7, sampleCount := 2, bucketCounts := [0, 1, 1] }
    errors := [{ errorClass := 7, count := 1, detail := "" }]
    requestsPerSecond := 2 }

theorem finalize_perm_iff_sample :
    [sampleWindow "a" 1200, sampleWindow "b" 1900, sampleWindow "a" 2200].Perm
        [sampleWindow "b" 1900, sampleWindow "a" 1200, sampleWindow "a" 2200] ∧
      ((new "run" 3 1).ingestAll
          [sampleWindow "a" 1200, sampleWindow "b" 1900, sampleWindow "a" 2200]).finalize =
        ((new "run" 3 1).ingestAll
          [sampleWindow "b" 1900, sampleWindow "a" 1200, sampleWindow "a" 2200]).finalize :=
  ⟨List.Perm.swap _ _ _, (finalize_perm_iff "run" 3 1 (List.Perm.swap _ _ _)).mpr (by decide)⟩

/-- The window of the earlier second arrives second: the report covers one second in
place of two. -/
theorem finalize_depends_on_order :
    ∃ batches permuted : List (MetricBatch Nat),
      batches.Perm permuted ∧
        ((new "run" 3 1).ingestAll batches).finalize ≠
          ((new "run" 3 1).ingestAll permuted).finalize := by
  refine
    ⟨[sampleWindow "a" 1200, sampleWindow "b" 900],
      [sampleWindow "b" 900, sampleWindow "a" 1200], List.Perm.swap _ _ _, ?_⟩
  intro same
  have durations := congrArg GlobalReport.durationSecs same
  exact absurd durations (by decide +kernel)

end TelemetryPipeline

end Strobengine.Distributed.Master
