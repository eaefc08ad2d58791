import Mathlib.Tactic.Positivity
import Strobengine.Metrics.Finalize

/-!
# The windows of a timeline

The rounds are cut into windows, one for each sample. The clock is arbitrary as long as it never
goes back.
-/

namespace Strobengine.Metrics

open TimelineAccumulator

def windowHistogram (window : List Round) : Histogram :=
  window.foldl (fun histogram round => record histogram (min round.metric.latencyMicros u64Max)) []

def sampleOf (hdr : HdrStatistics) (window : List Round) (elapsedSec intervalSecs : ℚ) :
    TimelineSample :=
  makeTimelineSample hdr elapsedSec window.length (window.countP fun round => round.metric.isError)
    intervalSecs (windowHistogram window)

/-- The samples of consecutive windows, the first of which begins at `since`. A window is closed in
its last round, where the next one begins; the rounds that are left at the end are a window too. -/
inductive CutIntoWindows (hdr : HdrStatistics) (runStart : Nat) (ended : Nat → Nat) :
    Nat → List (List Round) → List TimelineSample → Prop
  | nil {since : Nat} : CutIntoWindows hdr runStart ended since [] []
  | last {since : Nat} {window : List Round} (pending : window ≠ []) :
      CutIntoWindows hdr runStart ended since [window]
        [sampleOf hdr window (secondsSince runStart (ended 0))
          (max (secondsSince since (ended 1)) (1 / 1000000000))]
  | cut {since : Nat} (window : List Round) (closing : Round) {windows : List (List Round)}
      {samples : List TimelineSample}
      (rest : CutIntoWindows hdr runStart ended (closing.now 3) windows samples) :
      CutIntoWindows hdr runStart ended since ((window ++ [closing]) :: windows)
        (sampleOf hdr (window ++ [closing]) (secondsSince runStart (closing.now 1))
          (secondsSince since (closing.now 2)) :: samples)

/-- No reading is before one of an earlier round. -/
def NeverBack (readings : List (Nat → Nat)) : Prop :=
  readings.Pairwise (fun earlier later => ∀ first second, earlier first ≤ later second)

theorem secondsSince_mono (start : Nat) {earlier later : Nat} (le : earlier ≤ later) :
    secondsSince start earlier ≤ secondsSince start later := by
  unfold secondsSince
  gcongr

section Samples

variable {hdr : HdrStatistics} {runStart since : Nat} {ended : Nat → Nat}
  {windows : List (List Round)} {samples : List TimelineSample}

theorem CutIntoWindows.nonempty (cut : CutIntoWindows hdr runStart ended since windows samples) :
    ∀ window ∈ windows, window ≠ [] := by
  induction cut with
  | nil => simp
  | last pending => simpa using pending
  | cut window closing _ ih => simpa using ih

theorem CutIntoWindows.read (cut : CutIntoWindows hdr runStart ended since windows samples) :
    ∀ sample ∈ samples,
      ∃ now ∈ windows.flatten.map Round.now ++ [ended],
        ∃ reading, sample.elapsedSec = secondsSince runStart (now reading) := by
  induction cut with
  | nil => simp
  | last pending =>
    rw [List.forall_mem_singleton]
    exact ⟨ended, by simp, 0, rfl⟩
  | cut window closing rest ih =>
    rw [List.forall_mem_cons]
    refine ⟨⟨closing.now, by simp, 1, rfl⟩, ?_⟩
    intro sample member
    obtain ⟨now, listed, reading⟩ := ih sample member
    refine ⟨now, ?_, reading⟩
    rw [List.flatten_cons, List.map_append, List.append_assoc]
    exact List.mem_append_right _ listed

theorem CutIntoWindows.ordered (cut : CutIntoWindows hdr runStart ended since windows samples)
    (forward : NeverBack (windows.flatten.map Round.now ++ [ended])) :
    (samples.map TimelineSample.elapsedSec).Pairwise (· ≤ ·) := by
  induction cut with
  | nil => exact .nil
  | last pending => exact List.pairwise_singleton _ _
  | cut window closing rest ih =>
    rw [NeverBack, List.flatten_cons, List.map_append, List.append_assoc,
      List.pairwise_append] at forward
    obtain ⟨-, later, across⟩ := forward
    rw [List.map_cons, List.pairwise_cons]
    refine ⟨?_, ih later⟩
    intro time listed
    obtain ⟨sample, member, rfl⟩ := List.mem_map.mp listed
    obtain ⟨now, read, reading, same⟩ := rest.read sample member
    rw [same]
    exact secondsSince_mono _ (across closing.now (by simp) now read 1 reading)

/-- The accumulator holds the counts of the rounds since the last sample. -/
structure Holds (timeline : TimelineAccumulator) (current : List Round) : Prop where
  enabled : timeline.enabled = true
  requests : timeline.requests = current.length
  errors : timeline.errors = current.countP fun round => round.metric.isError
  histogram : timeline.histogram = windowHistogram current

variable {timeline : TimelineAccumulator} {current : List Round}

theorem Holds.sample (holds : Holds timeline current) (elapsedSec intervalSecs : ℚ) :
    makeTimelineSample hdr elapsedSec timeline.requests timeline.errors intervalSecs
        timeline.histogram =
      sampleOf hdr current elapsedSec intervalSecs := by
  rw [sampleOf, holds.requests, holds.errors, holds.histogram]

theorem Holds.record (holds : Holds timeline current) (round : Round) :
    Holds
      (timeline.recordLatency (min round.metric.latencyMicros u64Max) round.metric.isError)
      (current ++ [round]) := by
  unfold recordLatency
  rw [if_pos holds.enabled]
  refine ⟨holds.enabled, ?_, ?_, ?_⟩
  · simp [holds.requests]
  · cases failed : round.metric.isError <;> simp [holds.errors, failed]
  · simp [holds.histogram, windowHistogram]

theorem Holds.finish (holds : Holds timeline current) :
    ∃ windows samples,
      windows.flatten = current ∧
        CutIntoWindows hdr timeline.runStart ended timeline.lastSampleAt windows samples ∧
          (timeline.finish hdr ended).elim [] Timeline.samples = timeline.samples ++ samples := by
  have shown (samples : List TimelineSample) (intervalMs : Nat) :
      (if !samples.isEmpty then some (Timeline.mk intervalMs samples) else none).elim []
        Timeline.samples = samples := by
    cases samples <;> rfl
  simp only [TimelineAccumulator.finish, holds.enabled, Bool.true_and, shown, holds.sample,
    decide_eq_true_eq]
  by_cases pending : current = []
  · exact ⟨[], [], pending.symm, .nil, by simp [holds.requests, pending]⟩
  · refine ⟨[current], _, by simp, .last pending, if_pos ?_⟩
    rw [holds.requests]
    exact List.length_pos_iff.mpr pending

theorem Holds.maybeEmit_eq (holds : Holds timeline current) (pending : current ≠ [])
    (hdr : HdrStatistics) (now : Nat → Nat) :
    timeline.maybeEmit hdr now = timeline ∨
      timeline.maybeEmit hdr now =
        { timeline with
          samples :=
            timeline.samples ++
              [sampleOf hdr current (secondsSince timeline.runStart (now 1))
                (secondsSince timeline.lastSampleAt (now 2))]
          histogram := []
          requests := 0
          errors := 0
          lastSampleAt := now 3 } := by
  unfold maybeEmit
  split
  · exact Or.inl rfl
  · right
    rw [if_pos (by rw [holds.requests]; exact List.length_pos_iff.mpr pending), holds.sample]

/-- A round lengthens the current window, or it closes it and the next one begins. -/
theorem Holds.exists_windows (rounds : List Round) {aggregation : Aggregation}
    (holds : Holds aggregation.timeline current) :
    ∃ windows samples,
      windows.flatten = current ++ rounds ∧
        CutIntoWindows hdr aggregation.timeline.runStart ended aggregation.timeline.lastSampleAt
            windows samples ∧
          ((rounds.foldl (Aggregation.receive hdr) aggregation).timeline.finish hdr ended).elim []
              Timeline.samples =
            aggregation.timeline.samples ++ samples := by
  induction rounds generalizing current aggregation with
  | nil =>
    rw [List.append_nil]
    exact holds.finish
  | cons round rest ih =>
    have recorded := holds.record round
    rw [recordLatency, if_pos holds.enabled] at recorded
    have received :
        (aggregation.receive hdr round).timeline =
          (aggregation.timeline.recordLatency (min round.metric.latencyMicros u64Max)
            round.metric.isError).maybeEmit hdr round.now := rfl
    rw [recordLatency, if_pos holds.enabled] at received
    rw [List.foldl_cons, List.append_cons]
    obtain same | closed := recorded.maybeEmit_eq (by simp) hdr round.now
    · rw [same] at received
      have lengthened := ih (received ▸ recorded)
      rwa [received] at lengthened
    · rw [closed] at received
      have begun : Holds (aggregation.receive hdr round).timeline [] := by
        rw [received]
        exact ⟨holds.enabled, rfl, rfl, rfl⟩
      obtain ⟨windows, samples, whole, cut, shown⟩ := ih begun
      rw [received] at cut shown
      refine ⟨(current ++ [round]) :: windows, _, by simp [whole], .cut current round cut, ?_⟩
      rw [shown]
      simp

end Samples

/-- Whatever the clock does as long as it does not go back: the recorded requests, with their
errors, are cut into windows, and the samples are made from these, one from each and with the length
of its window, at times that do not decrease. -/
theorem timeline_partitions_requests
    (hdr : HdrStatistics) {timelineIntervalMs : Nat} (enabled : 0 < timelineIntervalMs)
    (started : Nat → Nat) (rounds : List Round) (ended : Nat → Nat)
    (forward : NeverBack (started :: rounds.map Round.now ++ [ended])) :
    ∃ windows samples,
      ((finalizeMetrics hdr timelineIntervalMs started rounds ended).timeline.elim []
          Timeline.samples) = samples ∧
        windows.flatten = rounds ∧ (∀ window ∈ windows, window ≠ []) ∧
          CutIntoWindows hdr (started 0) ended (started 1) windows samples ∧
            (samples.map TimelineSample.elapsedSec).Pairwise (· ≤ ·) := by
  have begins : Holds (Aggregation.new timelineIntervalMs started).timeline [] :=
    ⟨decide_eq_true enabled, rfl, rfl, rfl⟩
  obtain ⟨windows, samples, whole, cut, shown⟩ := begins.exists_windows rounds
  refine ⟨windows, samples, shown, whole, cut.nonempty, cut, cut.ordered ?_⟩
  rw [whole]
  exact (List.pairwise_cons.mp forward).2

/-- Failed requests, one every 0.7 s. -/
def failedRounds : List Round :=
  [700000000, 1400000000, 2100000000].map fun now => ⟨RequestMetric.error 7 none, fun _ => now⟩

theorem timeline_partitions_requests_sample :
    ∃ windows samples,
      ((finalizeMetrics .sample 1000 (fun _ => 0) failedRounds fun _ => 2800000000).timeline.elim []
          Timeline.samples) = samples ∧
        windows.flatten = failedRounds ∧ (∀ window ∈ windows, window ≠ []) ∧
          CutIntoWindows .sample 0 (fun _ => 2800000000) 0 windows samples ∧
            (samples.map TimelineSample.elapsedSec).Pairwise (· ≤ ·) := by
  refine timeline_partitions_requests .sample (by decide) (fun _ => 0) failedRounds _ ?_
  simp [NeverBack, failedRounds]

end Strobengine.Metrics
