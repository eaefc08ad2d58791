import Strobengine.Rust.Number
import Mathlib.Algebra.Order.Ring.Rat

/-!
# System metrics

What the samples of the resource monitor are turned into: peaks, averages and the samples
themselves. CPU values that are not finite do not count.
-/

namespace Strobengine.Metrics

open Rust

structure ResourceSample where
  timestampUs : Nat
  cpuUsagePercent : Float64
  memoryRssBytes : Nat
  threadCount : Nat
  openFds : Option Nat
  deriving DecidableEq, Repr

structure SystemMetrics where
  peakCpuPercent : ℚ := 0
  avgCpuPercent : ℚ := 0
  peakMemoryRssBytes : Nat := 0
  avgMemoryRssBytes : Nat := 0
  peakThreadCount : Nat := 0
  timeSeries : List ResourceSample := []
  deriving DecidableEq, Repr

def ResourceSample.validCpu (sample : ResourceSample) : Option ℚ :=
  match sample.cpuUsagePercent with
  | .finite value => some value
  | _ => none

namespace SystemMetrics

def fromSamples (samples : List ResourceSample) : SystemMetrics :=
  if samples.isEmpty then
    {}
  else
    let validCpu := samples.filterMap ResourceSample.validCpu
    { peakCpuPercent := validCpu.foldl max 0
      avgCpuPercent := if validCpu.isEmpty then 0 else validCpu.sum / validCpu.length
      peakMemoryRssBytes := (samples.map ResourceSample.memoryRssBytes).max?.getD 0
      avgMemoryRssBytes :=
        (samples.map ResourceSample.memoryRssBytes).sum / samples.length
      peakThreadCount := (samples.map ResourceSample.threadCount).max?.getD 0
      timeSeries := samples }

@[simp]
theorem timeSeries_fromSamples (samples : List ResourceSample) :
    (fromSamples samples).timeSeries = samples := by
  unfold fromSamples
  split
  · rename_i empty
    exact (List.isEmpty_iff.mp empty).symm
  · rfl

/-- The peaks are maxima over the time series: no sample is above them, and some sample
reaches them. A CPU peak of zero stands for no finite value above zero. -/
structure Peaks (metrics : SystemMetrics) : Prop where
  memory : ∀ sample ∈ metrics.timeSeries, sample.memoryRssBytes ≤ metrics.peakMemoryRssBytes
  memoryReached :
    metrics.timeSeries ≠ [] →
      ∃ sample ∈ metrics.timeSeries, sample.memoryRssBytes = metrics.peakMemoryRssBytes
  threads : ∀ sample ∈ metrics.timeSeries, sample.threadCount ≤ metrics.peakThreadCount
  threadsReached :
    metrics.timeSeries ≠ [] →
      ∃ sample ∈ metrics.timeSeries, sample.threadCount = metrics.peakThreadCount
  cpu :
    ∀ sample ∈ metrics.timeSeries, ∀ value,
      sample.cpuUsagePercent = .finite value → value ≤ metrics.peakCpuPercent
  cpuReached :
    metrics.peakCpuPercent = 0 ∨
      ∃ sample ∈ metrics.timeSeries, sample.cpuUsagePercent = .finite metrics.peakCpuPercent

section Maxima

variable {Value : Type} [LinearOrder Value]

theorem le_foldl_max (values : List Value) (start : Value) :
    start ≤ values.foldl max start ∧ ∀ value ∈ values, value ≤ values.foldl max start := by
  induction values generalizing start with
  | nil => simp
  | cons first rest ih =>
    obtain ⟨above, others⟩ := ih (max start first)
    refine ⟨le_trans (le_max_left start first) above, ?_⟩
    intro value member
    rcases List.mem_cons.mp member with rfl | later
    · exact le_trans (le_max_right start value) above
    · exact others value later

theorem foldl_max_mem (values : List Value) (start : Value) :
    values.foldl max start = start ∨ values.foldl max start ∈ values := by
  induction values generalizing start with
  | nil => exact Or.inl rfl
  | cons first rest ih =>
    rw [List.foldl_cons]
    rcases ih (max start first) with same | later
    · rw [same]
      rcases max_choice start first with kept | replaced
      · exact Or.inl kept
      · exact Or.inr (by rw [replaced]; exact List.mem_cons_self)
    · exact Or.inr (List.mem_cons_of_mem first later)

end Maxima

theorem le_max?_getD {samples : List ResourceSample} (quantity : ResourceSample → Nat)
    (sample : ResourceSample) (member : sample ∈ samples) :
    quantity sample ≤ (samples.map quantity).max?.getD 0 := by
  have mapped : quantity sample ∈ samples.map quantity := List.mem_map_of_mem member
  obtain ⟨most, largest⟩ := Option.isSome_iff_exists.mp (List.isSome_max?_of_mem mapped)
  rw [largest, Option.getD_some]
  exact (List.max?_eq_some_iff.mp largest).2 _ mapped

theorem exists_max?_getD {samples : List ResourceSample} (quantity : ResourceSample → Nat)
    (some : samples ≠ []) :
    ∃ sample ∈ samples, quantity sample = (samples.map quantity).max?.getD 0 := by
  have mapped : samples.map quantity ≠ [] := by simpa using some
  obtain ⟨most, largest⟩ := Option.isSome_iff_exists.mp (List.isSome_max?_of_ne_nil mapped)
  rw [largest, Option.getD_some]
  exact List.mem_map.mp (List.max?_eq_some_iff.mp largest).1

theorem validCpu_eq_some_iff {sample : ResourceSample} {value : ℚ} :
    sample.validCpu = some value ↔ sample.cpuUsagePercent = .finite value := by
  unfold ResourceSample.validCpu
  cases sample.cpuUsagePercent <;> simp

theorem peaks_fromSamples (samples : List ResourceSample) : (fromSamples samples).Peaks := by
  unfold fromSamples
  split
  · exact ⟨by simp, by simp, by simp, by simp, by simp, Or.inl rfl⟩
  · refine
      ⟨le_max?_getD ResourceSample.memoryRssBytes, exists_max?_getD ResourceSample.memoryRssBytes,
        le_max?_getD ResourceSample.threadCount, exists_max?_getD ResourceSample.threadCount,
        ?_, ?_⟩
    · intro sample member value finite
      have valid : value ∈ samples.filterMap ResourceSample.validCpu :=
        List.mem_filterMap.mpr ⟨sample, member, validCpu_eq_some_iff.mpr finite⟩
      exact (le_foldl_max _ 0).2 value valid
    · rcases foldl_max_mem (samples.filterMap ResourceSample.validCpu) 0 with zero | reached
      · exact Or.inl zero
      · obtain ⟨sample, member, finite⟩ := List.mem_filterMap.mp reached
        exact Or.inr ⟨sample, member, validCpu_eq_some_iff.mp finite⟩

end SystemMetrics

end Strobengine.Metrics
