import Strobengine.Local.LoadProfile
import Strobengine.Rust.Machine

/-!
# Durations that do not fit

The phases of a profile are in 64-bit seconds, and nothing bounds them: a sum that does not fit
panics in a debug build and wraps around in a release build.
-/

namespace Strobengine.Local

open Rust

namespace LoadProfile

def totalDurationIn (build : Build) : LoadProfile → Except Panic Nat
  | .constant _ durationSecs => .ok durationSecs.toNat
  | .ramp _ _ rampSecs holdSecs => build.uint64 (rampSecs.toNat + holdSecs.toNat)
  | .spike _ _ preSpikeSecs spikeSecs postSpikeSecs => do
      let spikeEnd ← build.uint64 (preSpikeSecs.toNat + spikeSecs.toNat)
      build.uint64 (spikeEnd + postSpikeSecs.toNat)

/-- `target_concurrency` in a build of either kind; only a spike adds, and only once it has
begun. -/
def targetConcurrencyIn (build : Build) (profile : LoadProfile) (elapsed : Nat) :
    Except Panic Nat :=
  match profile with
  | .spike baselineConcurrency peakConcurrency preSpikeSecs spikeSecs _ =>
    if asSecs elapsed < preSpikeSecs.toNat then
      .ok baselineConcurrency
    else do
      let spikeEnd ← build.uint64 (preSpikeSecs.toNat + spikeSecs.toNat)
      return if asSecs elapsed < spikeEnd then peakConcurrency else baselineConcurrency
  | other => .ok (other.targetConcurrency elapsed)

theorem uint64_release_add (first second : UInt64) :
    Build.release.uint64 (first.toNat + second.toNat) = .ok (first + second).toNat := by
  rw [UInt64.toNat_add, Build.uint64]
  split
  · rename_i fits
    rw [Nat.mod_eq_of_lt fits]
  · rfl

theorem totalDurationIn_release (profile : LoadProfile) :
    profile.totalDurationIn .release = .ok profile.totalDuration.toNat := by
  cases profile with
  | constant => rfl
  | ramp startConcurrency target rampSecs holdSecs => exact uint64_release_add rampSecs holdSecs
  | spike =>
    rw [totalDurationIn, uint64_release_add, ok_bind, uint64_release_add]
    rfl

theorem targetConcurrencyIn_release (profile : LoadProfile) (elapsed : Nat) :
    profile.targetConcurrencyIn .release elapsed = .ok (profile.targetConcurrency elapsed) := by
  cases profile with
  | spike =>
    simp only [targetConcurrencyIn, targetConcurrency, uint64_release_add, ok_bind]
    split <;> rfl
  | _ => rfl

/-- A phase of a profile: its length, and the concurrency after some seconds of it. -/
structure Phase where
  secs : Nat
  concurrency : Nat → Nat

/-- What a profile is for: its phases, one after the other. -/
def phases : LoadProfile → List Phase
  | .constant concurrency durationSecs => [⟨durationSecs.toNat, fun _ => concurrency⟩]
  | .ramp startConcurrency target rampSecs holdSecs =>
    [⟨rampSecs.toNat, fun secs => interpolate startConcurrency target secs rampSecs.toNat⟩,
      ⟨holdSecs.toNat, fun _ => target⟩]
  | .spike baselineConcurrency peakConcurrency preSpikeSecs spikeSecs postSpikeSecs =>
    [⟨preSpikeSecs.toNat, fun _ => baselineConcurrency⟩,
      ⟨spikeSecs.toNat, fun _ => peakConcurrency⟩,
      ⟨postSpikeSecs.toNat, fun _ => baselineConcurrency⟩]

/-- The concurrency after some seconds; the last phase goes on. -/
def concurrencyAt : List Phase → Nat → Nat
  | [], _ => 0
  | [last], secs => last.concurrency secs
  | phase :: rest, secs =>
    if secs < phase.secs then phase.concurrency secs else concurrencyAt rest (secs - phase.secs)

def phaseSecs (profile : LoadProfile) : Nat :=
  (profile.phases.map Phase.secs).sum

/-- All phases take place, in order and for their full length. -/
def RunsPhases (build : Build) (profile : LoadProfile) : Prop :=
  profile.totalDurationIn build = .ok profile.phaseSecs ∧
    ∀ elapsed,
      profile.targetConcurrencyIn build elapsed =
        .ok (concurrencyAt profile.phases (asSecs elapsed))

theorem phaseSecs_spike (baseline peak : Nat) (preSpikeSecs spikeSecs postSpikeSecs : UInt64) :
    (spike baseline peak preSpikeSecs spikeSecs postSpikeSecs).phaseSecs =
      preSpikeSecs.toNat + spikeSecs.toNat + postSpikeSecs.toNat := by
  simp only [phaseSecs, phases, List.map_cons, List.map_nil, List.sum_cons, List.sum_nil,
    Nat.add_zero, Nat.add_assoc]

theorem totalDurationIn_of_fits (build : Build) {profile : LoadProfile}
    (fits : FitsUInt64 profile.phaseSecs) :
    profile.totalDurationIn build = .ok profile.phaseSecs := by
  cases profile with
  | constant => rfl
  | ramp => exact build.uint64_of_fits fits
  | spike =>
    rw [phaseSecs_spike] at fits ⊢
    rw [totalDurationIn, build.uint64_of_fits (fits.mono (Nat.le_add_right _ _)), ok_bind,
      build.uint64_of_fits fits]

theorem targetConcurrencyIn_of_fits (build : Build) {profile : LoadProfile}
    (fits : FitsUInt64 profile.phaseSecs) (elapsed : Nat) :
    profile.targetConcurrencyIn build elapsed =
      .ok (concurrencyAt profile.phases (asSecs elapsed)) := by
  cases profile with
  | constant => rfl
  | ramp startConcurrency target rampSecs =>
    simp only [targetConcurrencyIn, targetConcurrency, phases, concurrencyAt]
    by_cases ramping : asSecs elapsed < rampSecs.toNat
    · have nonzero : rampSecs ≠ 0 := by
        rintro rfl
        exact Nat.not_lt_zero _ ramping
      rw [if_pos ramping, if_pos ramping, if_neg nonzero]
    · rw [if_neg ramping, if_neg ramping]
  | spike baseline peak preSpikeSecs spikeSecs =>
    rw [phaseSecs_spike] at fits
    simp only [targetConcurrencyIn, phases, concurrencyAt,
      build.uint64_of_fits (fits.mono (Nat.le_add_right _ _)), ok_bind]
    by_cases waiting : asSecs elapsed < preSpikeSecs.toNat
    · rw [if_pos waiting, if_pos waiting]
    · rw [if_neg waiting, if_neg waiting]
      have same :
          asSecs elapsed < preSpikeSecs.toNat + spikeSecs.toNat ↔
            asSecs elapsed - preSpikeSecs.toNat < spikeSecs.toNat := by
        omega
      simp only [same]
      rfl

theorem fits_of_totalDurationIn {build : Build} {profile : LoadProfile}
    (exact : profile.totalDurationIn build = .ok profile.phaseSecs) :
    FitsUInt64 profile.phaseSecs := by
  cases profile with
  | constant concurrency durationSecs => exact durationSecs.toNat_lt
  | ramp => exact build.fits_of_uint64 exact
  | spike =>
    obtain ⟨spikeEnd, _, stored⟩ := bind_eq_ok_iff.mp exact
    exact build.fits_of_uint64 stored

/-- The phases of a profile, accepted or not, take place as they should exactly when the sum of
their lengths fits into 64 bits. -/
theorem runs_phases_iff (build : Build) (profile : LoadProfile) :
    profile.RunsPhases build ↔ FitsUInt64 profile.phaseSecs := by
  constructor
  · exact fun runs => fits_of_totalDurationIn runs.1
  · exact fun fits =>
      ⟨totalDurationIn_of_fits build fits, targetConcurrencyIn_of_fits build fits⟩

/-- A ramp and a hold of 2^63 seconds each: a release build takes the run for finished when it
begins, and a debug build panics. -/
theorem long_phases_overflow :
    ensureConcurrencyLimit (ramp 1 10 (2 ^ 63) (2 ^ 63)).concurrencyUpperBound = .ok () ∧
      (ramp 1 10 (2 ^ 63) (2 ^ 63)).totalDurationIn .release = .ok 0 ∧
      (ramp 1 10 (2 ^ 63) (2 ^ 63)).totalDurationIn .debug = .error .overflow ∧
      ∀ build, ¬ (ramp 1 10 (2 ^ 63) (2 ^ 63)).RunsPhases build := by
  refine ⟨rfl, by decide +kernel, by decide +kernel, fun build runs => ?_⟩
  exact absurd (fits_of_totalDurationIn runs.1) (by decide +kernel)

end LoadProfile

end Strobengine.Local
