import Strobengine.Distributed.Master.Pipeline.Window
import Strobengine.Foundations.Quantile
import Strobengine.Metrics.Histogram
import Mathlib.Algebra.BigOperators.Ring.Finset
import Mathlib.Data.List.GetD
import Mathlib.Tactic.IntervalCases

/-!
# Percentiles from fixed buckets

`approx_percentile` is the quantile of a histogram over the bounds of the worker buckets, where the
open-ended bucket ends at the observed maximum.
-/

namespace Strobengine.Distributed.Master

open Foundations Rust
open Strobengine.Metrics (bucketLimits)

/-! ## The bounds of the worker buckets -/

def bucketMarks : List ℚ :=
  (0 :: bucketLimits).map Nat.cast

/-- The bounds of the worker buckets when the open-ended one, from 1000 ms on, ends at
the observed maximum. -/
def bucketScale (maximum : ℚ) : Scale ℚ where
  mark := fun index => (bucketMarks[index]?).getD (max maximum 1000)
  ordered := by
    apply monotone_nat_of_le_succ
    intro index
    by_cases inner : index < 9
    · interval_cases index <;> norm_num [bucketMarks, bucketLimits]
    · by_cases last : index = 9
      · subst last
        simp [bucketMarks, bucketLimits]
      · have outside : 10 ≤ index := by omega
        rw [List.getElem?_eq_none outside, List.getElem?_eq_none (Nat.le_succ_of_le outside)]

variable {index : Nat}

theorem lower_bound_eq (inside : index < 10) (maximum : ℚ) :
    (bucketBoundsMs[index]?).getD (.finite 0) = .finite ((bucketScale maximum).mark index) := by
  interval_cases index <;> rfl

theorem upper_bound_eq (inner : index < 9) (maximum : ℚ) (fallback : Float64) :
    (bucketBoundsMs[index + 1]?).getD fallback =
      .finite ((bucketScale maximum).mark (index + 1)) := by
  interval_cases index <;> rfl

def InWorkerBuckets (buckets : List Nat) : Prop :=
  ∀ index, 10 ≤ index → buckets.getD index 0 = 0

def BoundedBucket (fallbackMax : Float64) (maximum : ℚ) (index : Nat) : Prop :=
  index < 9 ∨ index = 9 ∧ fallbackMax = .finite maximum

theorem interpolate_finite (low high within : ℚ) (fallbackMax : Float64) :
    interpolate (.finite low) (.finite high) fallbackMax within =
      .finite (low + (high - low) * max 0 (min within 1)) := by
  cases fallbackMax <;> rfl

theorem interpolate_open (low maximum within : ℚ) :
    interpolate (.finite low) .infinity (.finite maximum) within =
      .finite (low + (max maximum low - low) * max 0 (min within 1)) :=
  rfl

theorem interpolate_eq_point {fallbackMax : Float64} {maximum : ℚ}
    (bounded : BoundedBucket fallbackMax maximum index)
    {within : ℚ} (nonneg : 0 ≤ within) (atMost : within ≤ 1) :
    interpolate ((bucketBoundsMs[index]?).getD (.finite 0))
        ((bucketBoundsMs[index + 1]?).getD fallbackMax) fallbackMax within =
      .finite ((bucketScale maximum).point index within) := by
  have clamped : max 0 (min within 1) = within := by
    rw [min_eq_left atMost, max_eq_right nonneg]
  rcases bounded with inner | ⟨rfl, known⟩
  · rw [lower_bound_eq (Nat.lt_succ_of_lt inner) maximum, upper_bound_eq inner maximum,
      interpolate_finite, clamped]
    rfl
  · have last : (bucketBoundsMs[9 + 1]?).getD fallbackMax = .infinity := rfl
    rw [lower_bound_eq (Nat.lt_succ_self 9) maximum, last, known, interpolate_open, clamped]
    rfl

theorem value_nat (count : Nat) : Counter.value count = count :=
  rfl

variable {buckets : List Nat}

theorem percentileFrom_of_holdsRank {target : ℚ} {cumulative offset : Nat}
    (held : HoldsRank buckets (target - cumulative) offset) (fallbackMax : Float64) (index : Nat) :
    percentileFrom target fallbackMax buckets index cumulative =
      interpolate ((bucketBoundsMs[index + offset]?).getD (.finite 0))
        ((bucketBoundsMs[index + offset + 1]?).getD fallbackMax) fallbackMax
        (rankShare buckets (target - cumulative) offset) := by
  induction buckets generalizing index cumulative offset with
  | nil => exact absurd held.filled (Nat.lt_irrefl 0)
  | cons count rest ih =>
    rw [percentileFrom, value_nat, value_nat]
    cases offset with
    | zero =>
      obtain ⟨filled, reached⟩ := held.of_head
      rw [if_neg (Nat.pos_iff_ne_zero.mp filled), if_pos (sub_le_iff_le_add'.mp reached)]
      simp [rankShare]
    | succ offset =>
      obtain ⟨later, passed⟩ := held.of_later
      rw [sub_sub, ← Nat.cast_add] at later
      have found := ih later (index + 1)
      have share :
          rankShare (count :: rest) (target - cumulative) (offset + 1) =
            rankShare rest (target - (cumulative + count : Nat)) offset := by
        rw [rankShare_cons, sub_sub, Nat.cast_add]
      rw [share, ← Nat.add_assoc, Nat.add_right_comm]
      by_cases empty : count = 0
      · subst empty
        rw [if_pos rfl]
        exact found
      · have behind : ¬target ≤ (cumulative : ℚ) + count := by
          have passed := passed (Nat.pos_of_ne_zero empty)
          intro reached
          linarith
        rw [if_neg empty, if_neg behind]
        exact found

def rankOf (buckets : List Nat) (percentile : ℚ) : ℚ :=
  percentile * (buckets.sum : Nat)

section Sampled

variable {buckets : List Nat} (sampled : 0 < buckets.sum) {percentile : ℚ} {index : Nat}

include sampled

theorem exists_holdsRank_rankOf (atMost : percentile ≤ 1) :
    ∃ index, HoldsRank buckets (rankOf buckets percentile) index :=
  Scale.exists_holdsRank sampled (mul_le_of_le_one_left (Nat.cast_nonneg _) atMost)

theorem approxPercentile_of_holdsRank
    (held : HoldsRank buckets (rankOf buckets percentile) index) (fallbackMax : Float64) :
    approxPercentile buckets percentile fallbackMax =
      interpolate ((bucketBoundsMs[index]?).getD (.finite 0))
        ((bucketBoundsMs[index + 1]?).getD fallbackMax) fallbackMax
        (rankShare buckets (rankOf buckets percentile) index) := by
  have start : rankOf buckets percentile - (0 : Nat) = rankOf buckets percentile := by
    rw [Nat.cast_zero, sub_zero]
  rw [← start] at held ⊢
  have found := percentileFrom_of_holdsRank held fallbackMax 0
  rw [Nat.zero_add] at found
  rw [approxPercentile, value_nat, if_neg (Nat.pos_iff_ne_zero.mp sampled)]
  rw [start] at found ⊢
  exact found

theorem exists_approxPercentile {fallbackMax : Float64} {maximum : ℚ}
    (bounded : ∀ index, 0 < buckets.getD index 0 → BoundedBucket fallbackMax maximum index)
    (nonneg : 0 ≤ percentile) (atMost : percentile ≤ 1) :
    ∃ index value,
      HoldsRank buckets (rankOf buckets percentile) index ∧
        approxPercentile buckets percentile fallbackMax = .finite value ∧
        (bucketScale maximum).quantile buckets 0 (rankOf buckets percentile) = some value ∧
        (bucketScale maximum).mark index ≤ value ∧
        value ≤ (bucketScale maximum).mark (index + 1) := by
  obtain ⟨index, held⟩ := exists_holdsRank_rankOf sampled atMost
  have rank : 0 ≤ rankOf buckets percentile := mul_nonneg nonneg (Nat.cast_nonneg _)
  have share := Scale.rankShare_nonneg rank held
  have share' := Scale.rankShare_le_one held
  have found := (bucketScale maximum).quantile_of_holdsRank held 0
  rw [Nat.zero_add] at found
  refine ⟨index, _, held, ?_, found, Scale.mark_le_point share, Scale.point_le_mark share'⟩
  rw [approxPercentile_of_holdsRank sampled held,
    interpolate_eq_point (bounded index held.filled) share share']

end Sampled

theorem approxPercentile_of_empty
    (empty : buckets.sum = 0) (percentile : ℚ) (fallbackMax : Float64) :
    approxPercentile buckets percentile fallbackMax = .finite 0 := by
  rw [approxPercentile, value_nat, if_pos empty]

theorem approxPercentile_mono {fallbackMax : Float64} {maximum : ℚ}
    (bounded : ∀ index, 0 < buckets.getD index 0 → BoundedBucket fallbackMax maximum index)
    {lower upper : ℚ} (nonneg : 0 ≤ lower) (ordered : lower ≤ upper) (atMost : upper ≤ 1) :
    approxPercentile buckets lower fallbackMax ≤ approxPercentile buckets upper fallbackMax := by
  by_cases empty : buckets.sum = 0
  · rw [approxPercentile_of_empty empty, approxPercentile_of_empty empty]
    exact le_refl (0 : ℚ)
  · have sampled := Nat.pos_of_ne_zero empty
    obtain ⟨_, small, _, computed, found, _⟩ :=
      exists_approxPercentile sampled bounded nonneg (ordered.trans atMost)
    obtain ⟨_, large, _, computed', found', _⟩ :=
      exists_approxPercentile sampled bounded (nonneg.trans ordered) atMost
    rw [computed, computed']
    have rank : 0 ≤ rankOf buckets lower := mul_nonneg nonneg (Nat.cast_nonneg _)
    have ranks : rankOf buckets lower ≤ rankOf buckets upper :=
      mul_le_mul_of_nonneg_right ordered (Nat.cast_nonneg _)
    exact Scale.quantile_mono rank ranks found found'

def mergeHistograms (histograms : List (List Nat)) : List Nat :=
  histograms.foldl Metrics.addBuckets (List.replicate 10 0)

/-- A histogram of a worker without samples in the open-ended bucket. -/
structure ClosedHistogram (buckets : List Nat) : Prop where
  width : buckets.length = 10
  closed : buckets.getD 9 0 = 0

theorem addBuckets_eq_zipWith {first second : List Nat} (aligned : first.length = second.length) :
    Metrics.addBuckets first second = List.zipWith (· + ·) first second := by
  apply List.ext_getElem?
  intro index
  rw [Metrics.getElem?_addBuckets, List.getElem?_zipWith]
  by_cases inside : index < first.length
  · have inside' : index < second.length := aligned ▸ inside
    simp [inside, inside']
  · simp [inside]

namespace ClosedHistogram

theorem zero : ClosedHistogram (List.replicate 10 0) :=
  ⟨List.length_replicate, rfl⟩

theorem add {first second : List Nat} (left : ClosedHistogram first)
    (right : ClosedHistogram second) : ClosedHistogram (Metrics.addBuckets first second) where
  width := (Metrics.length_addBuckets _ _).trans left.width
  closed := by
    have inside : 9 < first.length := by rw [left.width]; decide
    have leftClosed := left.closed
    have rightClosed := right.closed
    rw [List.getD_eq_getElem?_getD] at leftClosed rightClosed ⊢
    rw [Metrics.getElem?_addBuckets, rightClosed]
    simpa [inside] using leftClosed

theorem bounded {buckets : List Nat} (histogram : ClosedHistogram buckets)
    (fallbackMax : Float64) (maximum : ℚ) (index : Nat) (filled : 0 < buckets.getD index 0) :
    BoundedBucket fallbackMax maximum index := by
  refine Or.inl (Nat.lt_of_not_le ?_)
  intro late
  rcases Nat.eq_or_lt_of_le late with last | outside
  · rw [← last, histogram.closed] at filled
    exact absurd filled (Nat.lt_irrefl 0)
  · rw [List.getD_eq_default _ _ (by rw [histogram.width]; exact outside)] at filled
    exact absurd filled (Nat.lt_irrefl 0)

end ClosedHistogram

theorem sum_zipWith_add {first second : List Nat} (aligned : first.length = second.length) :
    (List.zipWith (· + ·) first second).sum = first.sum + second.sum := by
  induction first generalizing second with
  | nil =>
    cases second with
    | nil => rfl
    | cons => cases aligned
  | cons count rest ih =>
    cases second with
    | nil => cases aligned
    | cons =>
      rw [List.zipWith_cons_cons, List.sum_cons, List.sum_cons, List.sum_cons,
        ih (Nat.succ.inj aligned)]
      omega

variable {histograms : List (List Nat)}

theorem mergeHistograms_sums
    (workers : ∀ buckets ∈ histograms, ClosedHistogram buckets) (scale : Scale ℚ) :
    ClosedHistogram (mergeHistograms histograms) ∧
      (mergeHistograms histograms).sum = (histograms.map List.sum).sum ∧
      ∀ bound,
        scale.countBelow bound (mergeHistograms histograms) 0 =
          (histograms.map (fun buckets => scale.countBelow bound buckets 0)).sum := by
  induction histograms using List.reverseRecOn with
  | nil =>
    refine ⟨.zero, rfl, ?_⟩
    intro bound
    simp [mergeHistograms, List.replicate, Scale.countBelow]
  | append_singleton earlier last ih =>
    obtain ⟨closed, total, below⟩ := ih (fun buckets member =>
      workers buckets (List.mem_append_left _ member))
    have part := workers last (List.mem_append_right _ List.mem_cons_self)
    have aligned : (mergeHistograms earlier).length = last.length :=
      closed.width.trans part.width.symm
    have merged :
        mergeHistograms (earlier ++ [last]) =
          Metrics.addBuckets (mergeHistograms earlier) last := by
      rw [mergeHistograms, List.foldl_concat]
      rfl
    refine ⟨merged ▸ closed.add part, ?_, ?_⟩
    · rw [merged, addBuckets_eq_zipWith aligned, sum_zipWith_add aligned, total]
      simp
    · intro bound
      rw [merged, addBuckets_eq_zipWith aligned, scale.countBelow_zipWith_add bound aligned, below]
      simp

theorem exists_isQuantile (histogram : ClosedHistogram buckets) (sampled : 0 < buckets.sum)
    {percentile : ℚ} (positive : 0 < percentile) (atMost : percentile ≤ 1) (fallbackMax : Float64) :
    ∃ value,
      approxPercentile buckets percentile fallbackMax = .finite value ∧
        IsQuantile (fun bound => (bucketScale 0).countBelow bound buckets 0)
          (rankOf buckets percentile) value := by
  obtain ⟨_, value, _, computed, found, _⟩ :=
    exists_approxPercentile sampled (histogram.bounded fallbackMax 0) positive.le atMost
  refine ⟨value, computed, fun bound => ?_⟩
  exact Scale.quantile_le_iff (mul_pos positive (Nat.cast_pos.mpr sampled)) found

theorem rankOf_mergeHistograms
    (workers : ∀ buckets ∈ histograms, ClosedHistogram buckets) (percentile : ℚ) :
    rankOf (mergeHistograms histograms) percentile =
      (histograms.map (fun buckets => rankOf buckets percentile)).sum := by
  unfold rankOf
  rw [(mergeHistograms_sums workers (bucketScale 0)).2.1, List.sum_map_mul_left,
    Nat.cast_list_sum, List.map_map]
  rfl

theorem mergeHistograms_sampled (workers : ∀ buckets ∈ histograms, ClosedHistogram buckets)
    (member : buckets ∈ histograms) (sampled : 0 < buckets.sum) :
    0 < (mergeHistograms histograms).sum := by
  rw [(mergeHistograms_sums workers (bucketScale 0)).2.1]
  exact
    sampled.trans_le
      (List.single_le_sum (fun _ _ => Nat.zero_le _) _ (List.mem_map_of_mem member))

theorem exists_isQuantile_mergeHistograms
    {family : List (List Nat × Float64)} (nonempty : family ≠ [])
    (workers : ∀ histogram ∈ family, ClosedHistogram histogram.1 ∧ 0 < histogram.1.sum)
    {percentile : ℚ} (positive : 0 < percentile) (atMost : percentile ≤ 1) (fallbackMax : Float64) :
    ∃ value,
      approxPercentile (mergeHistograms (family.map Prod.fst)) percentile fallbackMax =
          .finite value ∧
        IsQuantile
          (fun bound =>
            (family.map
              (fun histogram => (bucketScale 0).countBelow bound histogram.1 0)).sum)
          (family.map (fun histogram => rankOf histogram.1 percentile)).sum value := by
  have closed : ∀ buckets ∈ family.map Prod.fst, ClosedHistogram buckets := by
    intro buckets member
    obtain ⟨histogram, present, rfl⟩ := List.mem_map.mp member
    exact (workers histogram present).1
  have sampled : 0 < (mergeHistograms (family.map Prod.fst)).sum := by
    obtain ⟨histogram, present⟩ := List.exists_mem_of_ne_nil family nonempty
    exact mergeHistograms_sampled closed (List.mem_map_of_mem present) (workers histogram present).2
  obtain ⟨merged, _, below⟩ := mergeHistograms_sums closed (bucketScale 0)
  obtain ⟨value, computed, quantile⟩ := exists_isQuantile merged sampled positive atMost fallbackMax
  refine ⟨value, computed, ?_⟩
  intro bound
  have found := quantile bound
  dsimp only at found
  rw [below, rankOf_mergeHistograms closed, List.map_map, List.map_map] at found
  exact found

/-- A percentile of merged worker histograms lies between the smallest and the largest of
the percentiles of the histograms, whatever maxima were observed with them. -/
theorem approxPercentile_mergeHistograms
    {family : List (List Nat × Float64)} (nonempty : family ≠ [])
    (workers : ∀ histogram ∈ family, ClosedHistogram histogram.1 ∧ 0 < histogram.1.sum)
    {percentile : ℚ} (positive : 0 < percentile) (atMost : percentile ≤ 1) (fallbackMax : Float64) :
    ∃ smallest ∈ family, ∃ largest ∈ family,
      (∀ histogram ∈ family,
        approxPercentile smallest.1 percentile smallest.2 ≤
            approxPercentile histogram.1 percentile histogram.2 ∧
          approxPercentile histogram.1 percentile histogram.2 ≤
            approxPercentile largest.1 percentile largest.2) ∧
        approxPercentile smallest.1 percentile smallest.2 ≤
          approxPercentile (mergeHistograms (family.map Prod.fst)) percentile fallbackMax ∧
        approxPercentile (mergeHistograms (family.map Prod.fst)) percentile fallbackMax ≤
          approxPercentile largest.1 percentile largest.2 := by
  have parts :
      ∀ histogram, ∃ value, histogram ∈ family →
        approxPercentile histogram.1 percentile histogram.2 = .finite value ∧
          IsQuantile (fun bound => (bucketScale 0).countBelow bound histogram.1 0)
            (rankOf histogram.1 percentile) value := by
    intro histogram
    by_cases member : histogram ∈ family
    · obtain ⟨closed, sampled⟩ := workers histogram member
      obtain ⟨value, computed, quantile⟩ :=
        exists_isQuantile closed sampled positive atMost histogram.2
      exact ⟨value, fun _ => ⟨computed, quantile⟩⟩
    · exact ⟨0, fun present => absurd present member⟩
  choose value computed using parts
  obtain ⟨whole, computedWhole, mixed⟩ :=
    exists_isQuantile_mergeHistograms nonempty workers positive atMost fallbackMax
  obtain ⟨least, leastMember, greatest, greatestMember, between, above, atMostGreatest⟩ :=
    IsQuantile.of_mixture nonempty (fun histogram member => (computed histogram member).2)
      mixed
  refine ⟨least, leastMember, greatest, greatestMember, ?_, ?_, ?_⟩
  · intro histogram member
    rw [(computed least leastMember).1, (computed histogram member).1,
      (computed greatest greatestMember).1]
    exact between histogram member
  · rw [(computed least leastMember).1, computedWhole]
    exact above
  · rw [(computed greatest greatestMember).1, computedWhole]
    exact atMostGreatest

/-- A histogram with its sample between 1 and 5 ms, and one with its sample below 1 ms. -/
def histogramPair : List (List Nat × Float64) :=
  [([0, 1, 0, 0, 0, 0, 0, 0, 0, 0], .finite 3), ([1, 0, 0, 0, 0, 0, 0, 0, 0, 0], .finite 1)]

theorem approxPercentile_histogramPair :
    ∃ smallest ∈ histogramPair, ∃ largest ∈ histogramPair,
      approxPercentile smallest.1 (1 / 2) smallest.2 ≤
          approxPercentile (mergeHistograms (histogramPair.map Prod.fst)) (1 / 2) .infinity ∧
        approxPercentile (mergeHistograms (histogramPair.map Prod.fst)) (1 / 2) .infinity ≤
          approxPercentile largest.1 (1 / 2) largest.2 := by
  have workers :
      ∀ histogram ∈ histogramPair, ClosedHistogram histogram.1 ∧ 0 < histogram.1.sum := by
    intro histogram member
    rcases List.mem_cons.mp member with rfl | other
    · exact ⟨⟨rfl, rfl⟩, by decide⟩
    · rw [List.mem_singleton.mp other]
      exact ⟨⟨rfl, rfl⟩, by decide⟩
  obtain ⟨smallest, member, largest, member', _, below, above⟩ :=
    approxPercentile_mergeHistograms (List.cons_ne_nil _ _) workers
      (by norm_num : (0 : ℚ) < 1 / 2) (by norm_num) .infinity
  exact ⟨smallest, member, largest, member', below, above⟩

end Strobengine.Distributed.Master
