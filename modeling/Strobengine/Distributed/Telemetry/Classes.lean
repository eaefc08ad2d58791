import Strobengine.Distributed.Telemetry.Windows
import Strobengine.Metrics.Aggregate
import Mathlib.Tactic.Positivity

/-!
# The classes of a histogram and its buckets

With three significant figures the classes of the histogram are one wide below 2048 and 2^(k-10)
wide from 2^k on. A class is counted in the display bucket of its highest value, so latencies just
below a bound that does not begin a class are counted one bucket too high.
-/

namespace Strobengine.Metrics

def classWidth (value : Nat) : Nat :=
  2 ^ (value.log2 - 10)

def highestEquivalent (value : Nat) : Nat :=
  value / classWidth value * classWidth value + classWidth value - 1

/-- Every class with a recorded value is listed once, under its highest value. -/
structure HdrStatistics.ListsClasses (hdr : HdrStatistics) : Prop where
  distinct : ∀ histogram, ((hdr.iterRecorded histogram).map Prod.fst).Nodup
  listed :
    ∀ histogram, ∀ value ∈ histogram,
      highestEquivalent value ∈ (hdr.iterRecorded histogram).map Prod.fst
  counted :
    ∀ histogram, ∀ entry ∈ hdr.iterRecorded histogram,
      entry.2 = histogram.countP (fun value => highestEquivalent value = entry.1)

def bucketOf (latencyUs : Nat) : String :=
  bucketKey ((latencyUs : ℚ) / microsPerMilli)

/-! ## Each latency is counted once -/

theorem sum_countP_keys {Value Key : Type} [DecidableEq Key] {keys : List Key}
    (distinct : keys.Nodup) (holds : Key → Bool) (key : Value → Key) {values : List Value}
    (covered : ∀ value ∈ values, key value ∈ keys) :
    (keys.map (fun k => if holds k then values.countP (fun value => key value = k) else 0)).sum =
      values.countP (fun value => holds (key value)) := by
  induction values with
  | nil => simp
  | cons value rest ih =>
    obtain ⟨here, later⟩ := List.forall_mem_cons.mp covered
    have split (k : Key) :
        (if holds k then (value :: rest).countP (fun value => key value = k) else 0) =
          (if holds k then rest.countP (fun value => key value = k) else 0) +
            if key value = k then (if holds (key value) then 1 else 0) else 0 := by
      rw [List.countP_cons]
      by_cases same : key value = k
      · subst same
        cases holds (key value) <;> simp
      · simp [same]
    simp only [split, List.sum_map_add, sum_map_ite_of_mem distinct here]
    rw [ih later, List.countP_cons]

theorem calculateHistogramFromHdr_eq {hdr : HdrStatistics} (classes : hdr.ListsClasses)
    (histogram : Histogram) (key : String) :
    calculateHistogramFromHdr hdr histogram key =
      histogram.countP (fun value => bucketOf (highestEquivalent value) = key) := by
  have added (entries : List (Nat × Nat)) (count : Nat) :
      entries.foldl
          (fun count entry =>
            if bucketKey ((entry.1 : ℚ) / microsPerMilli) = key then count + entry.2 else count)
          count =
        count + (entries.map (fun entry => if bucketOf entry.1 = key then entry.2 else 0)).sum := by
    induction entries generalizing count with
    | nil => rfl
    | cons entry rest ih =>
      rw [List.foldl_cons, ih, List.map_cons, List.sum_cons]
      unfold bucketOf
      split <;> omega
  have counts :=
    sum_countP_keys (classes.distinct histogram) (fun value => decide (bucketOf value = key))
      highestEquivalent (classes.listed histogram)
  rw [calculateHistogramFromHdr, added, Nat.zero_add]
  simp only [decide_eq_true_eq] at counts
  rw [← counts, List.map_map]
  refine congrArg List.sum (List.map_congr_left fun entry member => ?_)
  rw [classes.counted histogram entry member]
  rfl

/-! ## Classes and bounds -/

def lowestEquivalent (value : Nat) : Nat :=
  value / classWidth value * classWidth value

theorem classWidth_pos (value : Nat) : 0 < classWidth value :=
  Nat.two_pow_pos _

theorem lowestEquivalent_le (value : Nat) : lowestEquivalent value ≤ value :=
  Nat.div_mul_le_self value (classWidth value)

theorem le_highestEquivalent (value : Nat) : value ≤ highestEquivalent value := by
  have split := Nat.div_add_mod' value (classWidth value)
  have rest := Nat.mod_lt value (classWidth_pos value)
  unfold highestEquivalent
  omega

theorem highestEquivalent_lt_of_dvd {value bound : Nat} (aligned : classWidth value ∣ bound)
    (below : value < bound) : highestEquivalent value < bound := by
  obtain ⟨factor, rfl⟩ := aligned
  have quotient : value / classWidth value + 1 ≤ factor := Nat.div_lt_of_lt_mul below
  have room := Nat.mul_le_mul_right (classWidth value) quotient
  have width := classWidth_pos value
  rw [Nat.add_mul, Nat.one_mul, Nat.mul_comm factor] at room
  unfold highestEquivalent
  omega

theorem highestEquivalent_lt_iff {value bound : Nat} (positive : 0 < bound) :
    highestEquivalent value < bound ↔ value < lowestEquivalent bound := by
  have start := lowestEquivalent_le bound
  constructor
  · intro ends
    by_contra inside
    have less := (le_highestEquivalent value).trans_lt ends
    -- the value lies in the class of the bound, which ends at the bound or later
    have high : 2 ^ bound.log2 ≤ value := by
      have aligned := Nat.div_mul_cancel (pow_dvd_pow 2 (Nat.sub_le bound.log2 10))
      have quotient := Nat.div_le_div_right (c := classWidth bound) (Nat.log2_self_le positive.ne')
      have scaled := Nat.mul_le_mul_right (classWidth bound) quotient
      unfold lowestEquivalent classWidth at *
      omega
    have sameWidth : classWidth value = classWidth bound := by
      have nonzero : value ≠ 0 := (Nat.two_pow_pos _ |>.trans_le high).ne'
      rw [classWidth, (Nat.log2_eq_iff nonzero).mpr ⟨high, less.trans Nat.lt_log2_self⟩]
      rfl
    have quotient : bound / classWidth bound ≤ value / classWidth bound :=
      (Nat.le_div_iff_mul_le (classWidth_pos bound)).mpr (not_lt.mp inside)
    have scaled := Nat.mul_le_mul_right (classWidth bound) quotient
    have split := Nat.div_add_mod' bound (classWidth bound)
    have rest := Nat.mod_lt bound (classWidth_pos bound)
    rw [highestEquivalent, sameWidth] at ends
    omega
  · intro less
    refine (highestEquivalent_lt_of_dvd ?_ less).trans_le start
    rcases Nat.eq_zero_or_pos value with rfl | some
    · exact one_dvd _
    · have ordered : value.log2 ≤ bound.log2 :=
        (Nat.le_log2 positive.ne').mpr
          ((Nat.log2_self_le some.ne').trans (less.le.trans start))
      exact (pow_dvd_pow 2 (Nat.sub_le_sub_right ordered 10)).trans (Nat.dvd_mul_left _ _)

/-! ## Buckets in microseconds -/

theorem div_microsPerMilli_lt_iff (latencyUs bound : Nat) :
    (latencyUs : ℚ) / microsPerMilli < bound ↔ latencyUs < 1000 * bound := by
  rw [microsPerMilli, div_lt_iff₀ (by positivity), mul_comm]
  exact_mod_cast Iff.rfl

def bucketBounds : List Nat :=
  bucketLimits.map (1000 * ·)

theorem findIdx_lt_eq_countP {bounds : List Nat} (ordered : bounds.Pairwise (· ≤ ·)) (value : Nat) :
    bounds.findIdx (fun bound => value < bound) = bounds.countP (fun bound => bound ≤ value) := by
  induction bounds with
  | nil => rfl
  | cons bound rest ih =>
    obtain ⟨first, later⟩ := List.pairwise_cons.mp ordered
    rw [List.findIdx_cons, List.countP_cons, ih later]
    by_cases below : value < bound
    · have none : rest.countP (fun bound => bound ≤ value) = 0 := by
        rw [List.countP_eq_zero]
        intro other member
        have := first other member
        simpa using by omega
      simp [below, none]
    · simp [below, not_lt.mp below]

theorem idxOf_bucketOf (latencyUs : Nat) :
    histogramBucketOrder.idxOf (bucketOf latencyUs) =
      bucketBounds.countP (fun bound => bound ≤ latencyUs) := by
  rw [← findIdx_lt_eq_countP (by decide)]
  simp only [bucketOf, bucketKey, ← Nat.cast_one (R := ℚ), ← Nat.cast_ofNat (R := ℚ),
    div_microsPerMilli_lt_iff]
  repeat' split
  all_goals simp [bucketBounds, bucketLimits, List.findIdx_cons, histogramBucketOrder, *]

/-- The latencies that are counted above the bucket that contains them. -/
def displacedRanges : List (Nat × Nat) :=
  [(24992, 25000), (49984, 50000), (99968, 100000), (249984, 250000), (499968, 500000),
    (999936, 1000000)]

def Displaced (latencyUs : Nat) : Prop :=
  ∃ range ∈ displacedRanges, range.1 ≤ latencyUs ∧ latencyUs < range.2
  deriving Decidable

theorem countP_ranges {ranges : List (Nat × Nat)}
    (ordered : ranges.Pairwise (fun left right => left.2 ≤ right.1)) (value : Nat) :
    ranges.countP (fun range => range.1 ≤ value ∧ value < range.2) =
      if ∃ range ∈ ranges, range.1 ≤ value ∧ value < range.2 then 1 else 0 := by
  induction ranges with
  | nil => simp
  | cons range rest ih =>
    obtain ⟨first, later⟩ := List.pairwise_cons.mp ordered
    rw [List.countP_cons, ih later]
    by_cases inside : range.1 ≤ value ∧ value < range.2
    · have none : ¬ ∃ other ∈ rest, other.1 ≤ value ∧ value < other.2 := by
        rintro ⟨other, member, above, _⟩
        have := first other member
        omega
      simp [inside, none]
    · simp only [List.exists_mem_cons_iff, inside, decide_false, false_or, Bool.false_eq_true,
        if_false, Nat.add_zero]

theorem countP_le_highestEquivalent (latencyUs : Nat) {bounds : List Nat}
    (positive : ∀ bound ∈ bounds, 0 < bound) :
    bounds.countP (fun bound => bound ≤ highestEquivalent latencyUs) =
      bounds.countP (fun bound => bound ≤ latencyUs) +
        (bounds.map (fun bound => (lowestEquivalent bound, bound))).countP
          (fun range => range.1 ≤ latencyUs ∧ latencyUs < range.2) := by
  induction bounds with
  | nil => rfl
  | cons bound rest ih =>
    obtain ⟨here, later⟩ := List.forall_mem_cons.mp positive
    have ends : highestEquivalent latencyUs < bound ↔ latencyUs < lowestEquivalent bound :=
      highestEquivalent_lt_iff here
    have start := lowestEquivalent_le bound
    simp only [List.map_cons, List.countP_cons, ih later, decide_eq_true_eq]
    split_ifs <;> omega

theorem idxOf_bucketOf_highestEquivalent (latencyUs : Nat) :
    histogramBucketOrder.idxOf (bucketOf (highestEquivalent latencyUs)) =
      histogramBucketOrder.idxOf (bucketOf latencyUs) + if Displaced latencyUs then 1 else 0 := by
  -- the bounds of 1, 5 and 10 ms begin a class
  have ranges :
      bucketBounds.map (fun bound => (lowestEquivalent bound, bound)) =
        [(1000, 1000), (5000, 5000), (10000, 10000)] ++ displacedRanges := by
    decide +kernel
  have aligned :
      [(1000, 1000), (5000, 5000), (10000, 10000)].countP
        (fun range => range.1 ≤ latencyUs ∧ latencyUs < range.2) = 0 := by
    simp
  rw [idxOf_bucketOf, idxOf_bucketOf, countP_le_highestEquivalent latencyUs (by decide), ranges,
    List.countP_append, aligned, Nat.zero_add, countP_ranges (by decide)]
  rfl

theorem foldl_record_of_le {latencies : List Nat}
    (inRange : ∀ latencyUs ∈ latencies, latencyUs ≤ histogramHighestTrackable)
    (histogram : Histogram) : latencies.foldl record histogram = histogram ++ latencies := by
  induction latencies generalizing histogram with
  | nil => simp
  | cons latencyUs rest ih =>
    obtain ⟨here, later⟩ := List.forall_mem_cons.mp inRange
    rw [List.foldl_cons, ih later, record, saturatingRecord, Nat.min_eq_left here]
    simp

/-- Each latency is counted once, in the bucket of the highest value of its class. That is
the bucket after the one that contains the latency if the latency lies in the class of one of
the six bounds from 25 ms on, below the bound; else it is the bucket that contains it. -/
theorem histogramBuckets_count_latencies
    {hdr : HdrStatistics} (classes : hdr.ListsClasses) (latencies : List Nat)
    (inRange : ∀ latencyUs ∈ latencies, latencyUs ≤ histogramHighestTrackable) :
    histogramBuckets hdr (latencies.foldl record []) =
        histogramBucketOrder.map (fun key =>
          latencies.countP (fun latencyUs => bucketOf (highestEquivalent latencyUs) = key)) ∧
      (histogramBuckets hdr (latencies.foldl record [])).sum = latencies.length ∧
      ∀ latencyUs ∈ latencies,
        histogramBucketOrder.idxOf (bucketOf (highestEquivalent latencyUs)) =
          histogramBucketOrder.idxOf (bucketOf latencyUs) +
            if Displaced latencyUs then 1 else 0 := by
  have counted :
      histogramBuckets hdr (latencies.foldl record []) =
        histogramBucketOrder.map (fun key =>
          latencies.countP (fun latencyUs => bucketOf (highestEquivalent latencyUs) = key)) := by
    rw [foldl_record_of_le inRange]
    exact List.map_congr_left fun key _ => calculateHistogramFromHdr_eq classes _ key
  have once :=
    sum_countP_keys nodup_histogramBucketOrder (fun _ => true)
      (fun latencyUs => bucketOf (highestEquivalent latencyUs))
      (fun latencyUs (_ : latencyUs ∈ latencies) => bucketKey_mem _)
  refine ⟨counted, ?_, fun latencyUs _ => idxOf_bucketOf_highestEquivalent latencyUs⟩
  rw [counted]
  simpa using once

def HdrStatistics.threeFigures : HdrStatistics :=
  { HdrStatistics.sample with
    iterRecorded := fun histogram =>
      (histogram.map highestEquivalent).dedup.map (fun highest =>
        (highest, histogram.countP (fun value => highestEquivalent value = highest))) }

theorem listsClasses_threeFigures : HdrStatistics.threeFigures.ListsClasses where
  distinct histogram := by
    simpa [HdrStatistics.threeFigures, Function.comp_def] using List.nodup_dedup _
  listed histogram value member := by
    simpa [HdrStatistics.threeFigures, Function.comp_def] using ⟨value, member, rfl⟩
  counted histogram entry member := by
    obtain ⟨highest, _, rfl⟩ := List.mem_map.mp member
    rfl

theorem histogramBuckets_count_latencies_sample :
    histogramBuckets HdrStatistics.threeFigures ([0, 24991, 24992, 25000].foldl record []) =
      [1, 0, 0, 1, 2, 0, 0, 0, 0, 0] :=
  (histogramBuckets_count_latencies listsClasses_threeFigures [0, 24991, 24992, 25000]
    (by decide)).1.trans (by decide +kernel)

/-- A latency of 24.995 ms is counted between 25 and 50 ms. -/
theorem latency_counted_above_bucket :
    bucketOf 24995 = "10-25ms" ∧
      histogramBuckets HdrStatistics.threeFigures ([24995].foldl record []) =
        [0, 0, 0, 0, 1, 0, 0, 0, 0, 0] := by
  decide +kernel

end Strobengine.Metrics
