import Mathlib.Data.Rat.Floor
import Mathlib.Data.UInt

/-!
# Load profiles

Times are in nanoseconds, phases of a profile in whole seconds; the interpolation of a ramp is done
over exact rationals.
-/

namespace Strobengine.Local

def maxConcurrency : Nat :=
  10000

def fromSecs (secs : UInt64) : Nat :=
  secs.toNat * 1000000000

def asSecs (duration : Nat) : Nat :=
  duration / 1000000000

def roundHalfAway (value : ℚ) : Int :=
  if 0 ≤ value then ⌊value + 1 / 2⌋ else ⌈value - 1 / 2⌉

inductive LoadProfile where
  | constant (concurrency : Nat) (durationSecs : UInt64)
  | ramp (startConcurrency targetConcurrency : Nat) (rampSecs holdSecs : UInt64)
  | spike (baselineConcurrency peakConcurrency : Nat)
      (preSpikeSecs spikeSecs postSpikeSecs : UInt64)
  deriving DecidableEq, Repr

namespace LoadProfile

def totalDuration : LoadProfile → UInt64
  | .constant _ durationSecs => durationSecs
  | .ramp _ _ rampSecs holdSecs => rampSecs + holdSecs
  | .spike _ _ preSpikeSecs spikeSecs postSpikeSecs => preSpikeSecs + spikeSecs + postSpikeSecs

/-- The peak that the profile names, reported as the number of workers of the run. -/
def maxConcurrency : LoadProfile → Nat
  | .constant concurrency _ => concurrency
  | .ramp _ targetConcurrency _ _ => targetConcurrency
  | .spike _ peakConcurrency _ _ _ => peakConcurrency

def interpolate (startConcurrency targetConcurrency : Nat) (secs rampSecs : Nat) : Nat :=
  let progress : ℚ := (secs : ℚ) / rampSecs
  let range : ℚ := (targetConcurrency : ℚ) - startConcurrency
  (roundHalfAway (startConcurrency + range * progress)).toNat

def targetConcurrency (profile : LoadProfile) (elapsed : Nat) : Nat :=
  let secs := asSecs elapsed
  match profile with
  | .constant concurrency _ => concurrency
  | .ramp startConcurrency targetConcurrency rampSecs _ =>
    if secs < rampSecs.toNat then
      if rampSecs = 0 then
        targetConcurrency
      else
        interpolate startConcurrency targetConcurrency secs rampSecs.toNat
    else
      targetConcurrency
  | .spike baselineConcurrency peakConcurrency preSpikeSecs spikeSecs _ =>
    if secs < preSpikeSecs.toNat then
      baselineConcurrency
    else if secs < (preSpikeSecs + spikeSecs).toNat then
      peakConcurrency
    else
      baselineConcurrency

def concurrencyUpperBound : LoadProfile → Nat
  | .constant concurrency _ => concurrency
  | .ramp startConcurrency targetConcurrency _ _ => max startConcurrency targetConcurrency
  | .spike baselineConcurrency peakConcurrency _ _ _ => max baselineConcurrency peakConcurrency

end LoadProfile

def ensureConcurrencyLimit (concurrency : Nat) : Except String Unit :=
  if concurrency = 0 ∨ maxConcurrency < concurrency then
    .error ("concurrency must be between 1 and " ++ toString maxConcurrency)
  else
    .ok ()

theorem roundHalfAway_mono {lower upper : ℚ} (nonneg : 0 ≤ lower) (le : lower ≤ upper) :
    roundHalfAway lower ≤ roundHalfAway upper := by
  rw [roundHalfAway, roundHalfAway, if_pos nonneg, if_pos (nonneg.trans le)]
  exact Int.floor_le_floor (by linarith)

theorem roundHalfAway_natCast (value : Nat) : roundHalfAway (value : ℚ) = value := by
  rw [roundHalfAway, if_pos (Nat.cast_nonneg value)]
  exact Int.floor_eq_iff.mpr ⟨by push_cast; linarith, by push_cast; linarith⟩

namespace LoadProfile

section Ramp

variable (startConcurrency targetConcurrency : Nat) {rampSecs : Nat}

def rampPoint (secs rampSecs : Nat) : ℚ :=
  startConcurrency + ((targetConcurrency : ℚ) - startConcurrency) * ((secs : ℚ) / rampSecs)

theorem interpolate_eq (secs rampSecs : Nat) :
    interpolate startConcurrency targetConcurrency secs rampSecs =
      (roundHalfAway (rampPoint startConcurrency targetConcurrency secs rampSecs)).toNat :=
  rfl

theorem rampPoint_zero (rampSecs : Nat) :
    rampPoint startConcurrency targetConcurrency 0 rampSecs = startConcurrency := by
  simp [rampPoint]

theorem rampPoint_end (positive : 0 < rampSecs) :
    rampPoint startConcurrency targetConcurrency rampSecs rampSecs = targetConcurrency := by
  have nonzero : (rampSecs : ℚ) ≠ 0 := Nat.cast_ne_zero.mpr positive.ne'
  rw [rampPoint, div_self nonzero]
  ring

theorem rampPoint_le_of_up (up : startConcurrency ≤ targetConcurrency) {earlier later : Nat}
    (le : earlier ≤ later) :
    rampPoint startConcurrency targetConcurrency earlier rampSecs ≤
      rampPoint startConcurrency targetConcurrency later rampSecs := by
  have range : (0 : ℚ) ≤ (targetConcurrency : ℚ) - startConcurrency :=
    sub_nonneg.mpr (Nat.cast_le.mpr up)
  have progress : (earlier : ℚ) / rampSecs ≤ (later : ℚ) / rampSecs :=
    div_le_div_of_nonneg_right (Nat.cast_le.mpr le) (Nat.cast_nonneg rampSecs)
  have scaled := mul_le_mul_of_nonneg_left progress range
  unfold rampPoint
  linarith

theorem rampPoint_reverse (positive : 0 < rampSecs) {secs : Nat} (within : secs ≤ rampSecs) :
    rampPoint startConcurrency targetConcurrency secs rampSecs =
      rampPoint targetConcurrency startConcurrency (rampSecs - secs) rampSecs := by
  have nonzero : (rampSecs : ℚ) ≠ 0 := Nat.cast_ne_zero.mpr positive.ne'
  rw [rampPoint, rampPoint, Nat.cast_sub within, sub_div, div_self nonzero]
  ring

theorem rampPoint_nonneg (positive : 0 < rampSecs) {secs : Nat} (within : secs ≤ rampSecs) :
    0 ≤ rampPoint startConcurrency targetConcurrency secs rampSecs := by
  have rising {low high : Nat} (up : low ≤ high) (secs : Nat) :
      0 ≤ rampPoint low high secs rampSecs := by
    calc (0 : ℚ) ≤ low := Nat.cast_nonneg low
      _ = rampPoint low high 0 rampSecs := (rampPoint_zero low high rampSecs).symm
      _ ≤ rampPoint low high secs rampSecs := rampPoint_le_of_up low high up (Nat.zero_le secs)
  rcases Nat.le_total startConcurrency targetConcurrency with up | down
  · exact rising up secs
  · rw [rampPoint_reverse startConcurrency targetConcurrency positive within]
    exact rising down (rampSecs - secs)

theorem interpolate_zero (rampSecs : Nat) :
    interpolate startConcurrency targetConcurrency 0 rampSecs = startConcurrency := by
  rw [interpolate_eq, rampPoint_zero, roundHalfAway_natCast, Int.toNat_natCast]

theorem interpolate_end (positive : 0 < rampSecs) :
    interpolate startConcurrency targetConcurrency rampSecs rampSecs = targetConcurrency := by
  rw [interpolate_eq, rampPoint_end startConcurrency targetConcurrency positive,
    roundHalfAway_natCast, Int.toNat_natCast]

variable {startConcurrency targetConcurrency}

theorem interpolate_le_of_up (positive : 0 < rampSecs) (up : startConcurrency ≤ targetConcurrency)
    {earlier later : Nat} (le : earlier ≤ later) (within : later ≤ rampSecs) :
    interpolate startConcurrency targetConcurrency earlier rampSecs ≤
      interpolate startConcurrency targetConcurrency later rampSecs := by
  rw [interpolate_eq, interpolate_eq]
  apply Int.toNat_le_toNat
  exact
    roundHalfAway_mono
      (rampPoint_nonneg startConcurrency targetConcurrency positive (le.trans within))
      (rampPoint_le_of_up startConcurrency targetConcurrency up le)

theorem interpolate_le_of_down
    (positive : 0 < rampSecs) (down : targetConcurrency ≤ startConcurrency)
    {earlier later : Nat} (le : earlier ≤ later) (within : later ≤ rampSecs) :
    interpolate startConcurrency targetConcurrency later rampSecs ≤
      interpolate startConcurrency targetConcurrency earlier rampSecs := by
  have backwards := interpolate_le_of_up positive down
    (Nat.sub_le_sub_left le rampSecs) (Nat.sub_le rampSecs earlier)
  rw [interpolate_eq, interpolate_eq] at backwards ⊢
  rwa [rampPoint_reverse _ _ positive within, rampPoint_reverse _ _ positive (le.trans within)]

theorem interpolate_le_max (positive : 0 < rampSecs) {secs : Nat} (within : secs ≤ rampSecs) :
    interpolate startConcurrency targetConcurrency secs rampSecs ≤
      max startConcurrency targetConcurrency := by
  rcases Nat.le_total startConcurrency targetConcurrency with up | down
  · have below := interpolate_le_of_up positive up within le_rfl
    rw [interpolate_end _ _ positive] at below
    exact below.trans (Nat.le_max_right _ _)
  · have below := interpolate_le_of_down positive down (Nat.zero_le secs) within
    rw [interpolate_zero] at below
    exact below.trans (Nat.le_max_left _ _)

end Ramp

section RampTarget

variable {startConcurrency target : Nat} {rampSecs : UInt64} (holdSecs : UInt64)

theorem targetConcurrency_ramp (positive : 0 < rampSecs.toNat) (elapsed : Nat) :
    (ramp startConcurrency target rampSecs holdSecs).targetConcurrency elapsed =
      interpolate startConcurrency target (min (asSecs elapsed) rampSecs.toNat)
        rampSecs.toNat := by
  have nonzero : rampSecs ≠ 0 := by
    rintro rfl
    exact absurd positive (by decide)
  simp only [targetConcurrency, if_neg nonzero]
  split
  · rename_i before
    rw [Nat.min_eq_left before.le]
  · rename_i after
    rw [Nat.min_eq_right (Nat.le_of_not_lt after), interpolate_end _ _ positive]

theorem targetConcurrency_ramp_of_zero (zero : rampSecs.toNat = 0) (elapsed : Nat) :
    (ramp startConcurrency target rampSecs holdSecs).targetConcurrency elapsed = target := by
  simp [targetConcurrency, zero]

end RampTarget

theorem targetConcurrency_le_upperBound (profile : LoadProfile) (elapsed : Nat) :
    profile.targetConcurrency elapsed ≤ profile.concurrencyUpperBound := by
  cases profile with
  | constant => exact le_rfl
  | ramp startConcurrency target rampSecs holdSecs =>
    rcases Nat.eq_zero_or_pos rampSecs.toNat with zero | positive
    · rw [targetConcurrency_ramp_of_zero holdSecs zero]
      exact Nat.le_max_right _ _
    · rw [targetConcurrency_ramp holdSecs positive]
      exact interpolate_le_max positive (Nat.min_le_right _ _)
  | spike =>
    simp only [targetConcurrency, concurrencyUpperBound]
    split
    · exact Nat.le_max_left _ _
    · split
      · exact Nat.le_max_right _ _
      · exact Nat.le_max_left _ _

end LoadProfile

end Strobengine.Local
