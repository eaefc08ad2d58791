import Strobengine.Distributed.Master.Pipeline.Order

/-!
# Sliding windows

`window_metrics` does not look at batches: it merges the accumulators of the epochs that lie in the
window.
-/

namespace Strobengine.Distributed.Master

open Rust
open Proto (MetricBatch LatencySummary)

namespace Metrics

variable {Count : Type} [Counter Count]

variable {bucketCount : Nat} {metrics : Metrics Count}

theorem Sized.merge (sized : metrics.Sized bucketCount)
    (other : Metrics Count) : (metrics.merge other).Sized bucketCount :=
  (length_addBuckets _ _).trans sized

theorem inMetrics_merge
    {other : Metrics Count} (sized : metrics.buckets.length = other.buckets.length)
    (quantity : Quantity) :
    quantity.inMetrics (metrics.merge other) =
      quantity.inMetrics metrics + quantity.inMetrics other := by
  cases quantity with
  | bucket index =>
    simp only [Quantity.inMetrics, merge, getElem?_addBuckets]
    by_cases inside : index < metrics.buckets.length
    · have inside' : index < other.buckets.length := sized ▸ inside
      simp [inside, inside']
    · have outside' : ¬index < other.buckets.length := sized ▸ inside
      simp [inside, outside']
  | errors =>
    simp only [Quantity.inMetrics, merge]
    rw [HashMap.getD_lookup_foldl_entryOr, HashMap.sum_filter_toPairs]
  | _ => rfl

theorem mem_errors_merge (metrics other : Metrics Count) (errorClass : Int) :
    errorClass ∈ (metrics.merge other).errors ↔
      errorClass ∈ metrics.errors ∨ errorClass ∈ other.errors := by
  simp only [merge]
  rw [HashMap.mem_foldl_entryOr, HashMap.toPairs_keys, ← AList.mem_keys]

omit [Counter Count] in
theorem foldl_extremeStep {choose : ℚ → ℚ → ℚ} (assoc : ∀ first second third,
      choose (choose first second) third = choose first (choose second third))
    (bound : LatencySummary Count → ℚ) (current : Option ℚ)
    (batches : List (MetricBatch Count)) :
    batches.foldl (extremeStep choose bound) current =
      (batches.foldl (extremeStep choose bound) none).elim current
        (extremum choose current) := by
  induction batches using List.reverseRecOn with
  | nil => rfl
  | append_singleton batches batch ih =>
    rw [List.foldl_concat, List.foldl_concat, ih]
    generalize batches.foldl (extremeStep choose bound) none = extreme
    unfold extremeStep
    cases batch.latency with
    | none => rfl
    | some latency =>
      cases extreme with
      | none => rfl
      | some extreme =>
        cases current with
        | none => rfl
        | some first => exact congrArg some (assoc first extreme (bound latency))

theorem alike_merge_gathered {first : List (MetricBatch Count)}
    (alike : metrics.Alike (gathered bucketCount first)) (second : List (MetricBatch Count)) :
    (metrics.merge (gathered bucketCount second)).Alike
      (gathered bucketCount (first ++ second)) where
  amounts quantity := by
    have sized : metrics.buckets.length = (gathered bucketCount second).buckets.length := by
      rw [alike.width]
      exact (sized_gathered bucketCount first).trans (sized_gathered bucketCount second).symm
    rw [inMetrics_merge sized, alike.amounts, inMetrics_gathered, inMetrics_gathered,
      inMetrics_gathered, List.map_append, List.sum_append]
  width := by
    have sized : metrics.Sized bucketCount := alike.width.trans (sized_gathered bucketCount first)
    exact (sized.merge _).trans (sized_gathered bucketCount (first ++ second)).symm
  minMs := by
    simp only [merge]
    rw [alike.minMs, minMs_gathered, minMs_gathered, minMs_gathered, List.foldl_append,
      foldl_extremeStep min_assoc _ (first.foldl _ none)]
  maxMs := by
    simp only [merge]
    rw [alike.maxMs, maxMs_gathered, maxMs_gathered, maxMs_gathered, List.foldl_append,
      foldl_extremeStep max_assoc _ (first.foldl _ none)]
  classes errorClass := by
    rw [mem_errors_merge, alike.classes, mem_errors_gathered, mem_errors_gathered,
      mem_errors_gathered]
    simp only [List.mem_append, or_and_right, exists_or]

theorem Alike.refl (metrics : Metrics Count) : metrics.Alike metrics :=
  ⟨fun _ => rfl, rfl, rfl, rfl, fun _ => Iff.rfl⟩

theorem Alike.trans {first second third : Metrics Count}
    (alike : first.Alike second) (alike' : second.Alike third) : first.Alike third where
  amounts quantity := (alike.amounts quantity).trans (alike'.amounts quantity)
  width := alike.width.trans alike'.width
  minMs := alike.minMs.trans alike'.minMs
  maxMs := alike.maxMs.trans alike'.maxMs
  classes errorClass := (alike.classes errorClass).trans (alike'.classes errorClass)

theorem alike_foldl_merge {Key : Type} {part : Key → List (MetricBatch Count)}
    {entries : List (Key × Metrics Count)}
    (held : ∀ entry ∈ entries, entry.2 = gathered bucketCount (part entry.1)) :
    (entries.foldl (fun window entry => window.merge entry.2) (new bucketCount)).Alike
      (gathered bucketCount ((entries.map Prod.fst).flatMap part)) := by
  induction entries using List.reverseRecOn with
  | nil => exact Alike.refl _
  | append_singleton entries entry ih =>
    have earlier := ih (fun other member =>
      held other (List.mem_append_left _ member))
    rw [List.foldl_concat, held entry (List.mem_append_right _ List.mem_cons_self),
      List.map_append, List.flatMap_append]
    simpa using alike_merge_gathered earlier (part entry.1)

end Metrics

namespace TelemetryPipeline

variable {Count : Type} [Counter Count]

/-! ## Epochs in a window -/

def inWindow (start epoch : Int) (batch : MetricBatch Count) : Bool :=
  start ≤ epochOf batch.windowStartUnixMs ∧ epochOf batch.windowStartUnixMs ≤ epoch

@[simp]
theorem ingestAll_windowEpochs
    (pipeline : TelemetryPipeline Count) (batches : List (MetricBatch Count)) :
    (pipeline.ingestAll batches).windowEpochs = pipeline.windowEpochs := by
  induction batches using List.reverseRecOn with
  | nil => rfl
  | append_singleton batches batch ih =>
    rw [ingestAll, List.foldl_concat, ingest_fst]
    exact ih

section History

variable {run : String} {width : Nat} {history : List (MetricBatch Count)}
  {pipeline : TelemetryPipeline Count} (holds : Holds run width history pipeline)

include holds in
theorem lookup_epochs (epoch : Int) :
    pipeline.epochs.lookup epoch =
      HashMap.accumulated epochKey (.new width) Metrics.mergeBatch epoch history := by
  rw [holds.epochs, HashMap.lookup_foldl_collect]

include holds in
theorem gathered_of_mem_sortedEpochs
    {entry : Int × Metrics Count} (member : entry ∈ pipeline.sortedEpochs) :
    HashMap.members epochKey entry.1 history ≠ [] ∧
      entry.2 = Metrics.gathered width (HashMap.members epochKey entry.1 history) := by
  have listed : (entry.1, entry.2) ∈ pipeline.epochs.toPairs := (List.mem_insertionSort _).mp member
  rw [HashMap.mem_toPairs_iff, lookup_epochs holds] at listed
  unfold HashMap.accumulated at listed
  split at listed
  · cases listed
  · rename_i nonempty
    exact ⟨nonempty, (Option.some.inj listed).symm⟩

omit [Counter Count] in
theorem nodup_sortedEpochs_keys
    {entries : List (Int × Metrics Count)} (sublist : entries.Sublist pipeline.sortedEpochs) :
    (entries.map Prod.fst).Nodup := by
  have keys : (pipeline.sortedEpochs.map Prod.fst).Nodup := by
    rw [sortedEpochs, ((List.perm_insertionSort _ _).map Prod.fst).nodup_iff, HashMap.toPairs_keys]
    exact pipeline.epochs.keys_nodup
  exact keys.sublist (sublist.map Prod.fst)

include holds in
theorem alike_merged_epochs
    {entries : List (Int × Metrics Count)} (sublist : entries.Sublist pipeline.sortedEpochs) :
    (entries.foldl (fun window entry => Metrics.merge window entry.2) (Metrics.new width)).Alike
      (Metrics.gathered width
        (history.filter
          (fun batch => (epochKey batch).any (fun group => group ∈ entries.map Prod.fst)))) := by
  have merged :
      (entries.foldl (fun window entry => Metrics.merge window entry.2) (Metrics.new width)).Alike
        (Metrics.gathered width
          ((entries.map Prod.fst).flatMap
            (fun group => HashMap.members epochKey group history))) := by
    apply Metrics.alike_foldl_merge
    intro entry member
    exact (gathered_of_mem_sortedEpochs holds (sublist.subset member)).2
  have perm := HashMap.flatMap_members_perm epochKey (nodup_sortedEpochs_keys sublist) history
  exact merged.trans (Metrics.alike_gathered width perm)

include holds in
theorem alike_windowMetrics (epoch : Int) :
    (pipeline.windowMetrics epoch).Alike
      (Metrics.gathered width
        (history.filter
          (inWindow (epoch - (pipeline.windowEpochs - 1) * epochMs) epoch))) := by
  let start := epoch - (pipeline.windowEpochs - 1) * epochMs
  let entries :=
    pipeline.sortedEpochs.filter (fun entry => start ≤ entry.1 ∧ entry.1 ≤ epoch)
  have selected :
      history.filter
          (fun batch => (epochKey batch).any (fun group => group ∈ entries.map Prod.fst)) =
        history.filter (inWindow start epoch) := by
    apply List.filter_congr
    intro batch member
    have known := mem_sortedEpochs_keys holds member
    rw [Bool.eq_iff_iff]
    simp only [epochKey, Option.any_some, decide_eq_true_eq, inWindow]
    constructor
    · intro listed
      obtain ⟨entry, chosen, same⟩ := List.mem_map.mp listed
      rw [← same]
      exact of_decide_eq_true (List.mem_filter.mp chosen).2
    · intro inside
      obtain ⟨entry, sorted, same⟩ := List.mem_map.mp known
      refine List.mem_map.mpr ⟨entry, List.mem_filter.mpr ⟨sorted, ?_⟩, same⟩
      rw [same]
      exact decide_eq_true inside
  have merged := alike_merged_epochs holds (List.filter_sublist : entries.Sublist _)
  rw [selected] at merged
  rw [windowMetrics, holds.bucketCount]
  exact merged

end History

/-- For every history of batches, in whatever order they arrived, the accumulator of a
window agrees in every field with the direct accumulation of the batches whose epoch lies
in the window. -/
theorem windowMetrics_accumulates (runId : String) (bucketCount : Nat) (windowEpochs : Int)
    (batches : List (MetricBatch Count)) (epoch : Int) :
    let window := ((new runId bucketCount windowEpochs).ingestAll batches).windowMetrics epoch
    let direct :=
      Metrics.gathered (max bucketCount 1)
        (batches.filter (inWindow (epoch - (max windowEpochs 1 - 1) * epochMs) epoch))
    window.total = direct.total ∧ window.success = direct.success ∧
      window.failure = direct.failure ∧ window.bytes = direct.bytes ∧
      window.buckets = direct.buckets ∧ window.sampleCount = direct.sampleCount ∧
      window.minMs = direct.minMs ∧ window.maxMs = direct.maxMs ∧
      ∀ errorClass, window.errors.lookup errorClass = direct.errors.lookup errorClass := by
  intro window direct
  have alike : window.Alike direct := by
    have holds := holds_ingestAll runId bucketCount windowEpochs batches
    have read := alike_windowMetrics holds epoch
    rw [ingestAll_windowEpochs] at read
    exact read
  exact
    ⟨alike.total, alike.success, alike.failure, alike.amounts .bytes, alike.buckets,
      alike.amounts .samples, alike.minMs, alike.maxMs, alike.lookup_errors⟩

end TelemetryPipeline

end Strobengine.Distributed.Master
