import Mathlib.Algebra.Order.Field.Basic
import Mathlib.Algebra.Order.BigOperators.Group.List
import Mathlib.Data.Set.Finite.Lemmas
import Mathlib.Data.Set.Finite.List
import Mathlib.Tactic.Linarith
import Mathlib.Tactic.Ring

/-!
# Quantiles of histograms

A histogram says nothing about where in a bucket its samples lie; they are taken to be spread
evenly. The quantile of a rank is the least value at which the number of samples at or below it
reaches the rank.
-/

namespace Strobengine.Foundations

universe u v

variable {Scalar : Type u} [Field Scalar] [LinearOrder Scalar] [IsStrictOrderedRing Scalar]

/-- The marks between consecutive buckets: bucket `index` lies between the marks `index`
and `index + 1`. -/
structure Scale (Scalar : Type u) [Preorder Scalar] where
  mark : Nat → Scalar
  ordered : Monotone mark

/-- Of the buckets that are not empty, the first one up to which the rank is reached. -/
structure HoldsRank (counts : List Nat) (rank : Scalar) (index : Nat) : Prop where
  filled : 0 < counts.getD index 0
  reached : rank ≤ ((counts.take (index + 1)).sum : Nat)
  first :
    ∀ earlier < index,
      0 < counts.getD earlier 0 → (((counts.take (earlier + 1)).sum : Nat) : Scalar) < rank

def rankShare (counts : List Nat) (rank : Scalar) (index : Nat) : Scalar :=
  (rank - ((counts.take index).sum : Nat)) / (counts.getD index 0 : Nat)

theorem sum_take_succ (counts : List Nat) (index : Nat) :
    (counts.take (index + 1)).sum = (counts.take index).sum + counts.getD index 0 := by
  rw [List.take_add_one, List.sum_append, List.getD_eq_getElem?_getD]
  cases counts[index]? <;> simp

section HoldsRank

variable {rest : List Nat} {count offset : Nat} {rank : Scalar}

omit [LinearOrder Scalar] [IsStrictOrderedRing Scalar] in
theorem rankShare_cons (count : Nat) (rest : List Nat) (rank : Scalar) (offset : Nat) :
    rankShare (count :: rest) rank (offset + 1) = rankShare rest (rank - count) offset := by
  rw [rankShare, rankShare, List.take_succ_cons, List.sum_cons, Nat.cast_add, sub_sub]
  rfl

namespace HoldsRank

omit [IsStrictOrderedRing Scalar] in
theorem of_head (held : HoldsRank (count :: rest) rank 0) : 0 < count ∧ rank ≤ count := by
  have reached := held.reached
  simp only [Nat.zero_add, List.take_succ_cons, List.take_zero, List.sum_cons, List.sum_nil,
    Nat.add_zero] at reached
  exact ⟨held.filled, reached⟩

omit [IsStrictOrderedRing Scalar] in
theorem head (filled : 0 < count) (reached : rank ≤ count) : HoldsRank (count :: rest) rank 0 where
  filled := filled
  reached := by simpa using reached
  first := by
    intro earlier before
    exact absurd before (Nat.not_lt_zero earlier)

theorem of_later (held : HoldsRank (count :: rest) rank (offset + 1)) :
    HoldsRank rest (rank - count) offset ∧ (0 < count → (count : Scalar) < rank) := by
  refine ⟨⟨held.filled, ?_, ?_⟩, ?_⟩
  · have reached := held.reached
    rw [List.take_succ_cons, List.sum_cons, Nat.cast_add] at reached
    linarith
  · intro earlier before filled
    have first := held.first (earlier + 1) (Nat.succ_lt_succ before) filled
    rw [List.take_succ_cons, List.sum_cons, Nat.cast_add] at first
    linarith
  · intro filled
    simpa using held.first 0 (Nat.succ_pos offset) filled

theorem later
    (held : HoldsRank rest (rank - count) offset) (passed : 0 < count → (count : Scalar) < rank) :
    HoldsRank (count :: rest) rank (offset + 1) where
  filled := held.filled
  reached := by
    have reached := held.reached
    rw [List.take_succ_cons, List.sum_cons, Nat.cast_add]
    linarith
  first := by
    intro earlier before filled
    cases earlier with
    | zero => simpa using passed filled
    | succ earlier =>
      have first := held.first earlier (Nat.lt_of_succ_lt_succ before) filled
      rw [List.take_succ_cons, List.sum_cons, Nat.cast_add]
      linarith

end HoldsRank

end HoldsRank

namespace Scale

variable (scale : Scale Scalar)

def point (index : Nat) (share : Scalar) : Scalar :=
  scale.mark index + (scale.mark (index + 1) - scale.mark index) * share

/-- The share of a bucket that lies at or below a value; a bucket without width lies
there as a whole or not at all. -/
def shareBelow (index : Nat) (value : Scalar) : Scalar :=
  if scale.mark (index + 1) ≤ value then 1
  else if value ≤ scale.mark index then 0
  else (value - scale.mark index) / (scale.mark (index + 1) - scale.mark index)

/-- The number of samples at or below a value, in buckets from `index` on. -/
def countBelow (value : Scalar) : List Nat → Nat → Scalar
  | [], _ => 0
  | count :: rest, index => count * scale.shareBelow index value + countBelow value rest (index + 1)

/-- The value of a rank among the samples in buckets from `index` on. -/
def quantile : List Nat → Nat → Scalar → Option Scalar
  | [], _, _ => none
  | count :: rest, index, rank =>
    if count = 0 then
      quantile rest (index + 1) rank
    else if rank ≤ count then
      some (scale.point index (rank / count))
    else
      quantile rest (index + 1) (rank - count)

section Bucket

variable {scale} {index : Nat} {share value : Scalar}

theorem width_nonneg (scale : Scale Scalar) (index : Nat) :
    0 ≤ scale.mark (index + 1) - scale.mark index :=
  sub_nonneg.mpr (scale.ordered (Nat.le_succ index))

theorem mark_le_point (nonneg : 0 ≤ share) : scale.mark index ≤ scale.point index share :=
  le_add_of_nonneg_right (mul_nonneg (scale.width_nonneg index) nonneg)

theorem point_le_mark (atMost : share ≤ 1) : scale.point index share ≤ scale.mark (index + 1) := by
  have part := mul_le_of_le_one_right (scale.width_nonneg index) atMost
  unfold point
  linarith

theorem point_mono (index : Nat) : Monotone (scale.point index) := by
  intro lower upper ordered
  have part := mul_le_mul_of_nonneg_left ordered (scale.width_nonneg index)
  unfold point
  linarith

theorem shareBelow_nonneg (scale : Scale Scalar) (index : Nat) (value : Scalar) :
    0 ≤ scale.shareBelow index value := by
  unfold shareBelow
  split
  · exact zero_le_one
  · split
    · exact le_rfl
    · rename_i below
      exact div_nonneg (sub_nonneg.mpr (le_of_not_ge below)) (scale.width_nonneg index)

theorem shareBelow_le_one (scale : Scale Scalar) (index : Nat) (value : Scalar) :
    scale.shareBelow index value ≤ 1 := by
  unfold shareBelow
  split
  · exact le_rfl
  · rename_i below
    split
    · exact zero_le_one
    · apply div_le_one_of_le₀ _ (scale.width_nonneg index)
      linarith [lt_of_not_ge below]

omit [IsStrictOrderedRing Scalar] in
theorem shareBelow_eq_one (passed : scale.mark (index + 1) ≤ value) :
    scale.shareBelow index value = 1 :=
  if_pos passed

omit [IsStrictOrderedRing Scalar] in
theorem mark_le_of_shareBelow (some : scale.shareBelow index value ≠ 0) :
    scale.mark index ≤ value := by
  unfold shareBelow at some
  split at some
  · rename_i passed
    exact (scale.ordered (Nat.le_succ index)).trans passed
  · split at some
    · exact absurd rfl some
    · rename_i above
      exact le_of_not_ge above

/-- Where a share of a bucket ends, and how much of the bucket lies below a value. -/
theorem point_le_iff (positive : 0 < share) (atMost : share ≤ 1) :
    scale.point index share ≤ value ↔ share ≤ scale.shareBelow index value := by
  by_cases passed : scale.mark (index + 1) ≤ value
  · rw [shareBelow_eq_one passed]
    exact iff_of_true ((point_le_mark atMost).trans passed) atMost
  · by_cases short : value ≤ scale.mark index
    · rw [shareBelow, if_neg passed, if_pos short]
      apply iff_of_false _ (not_le_of_gt positive)
      intro below
      -- a positive share that ends at the lower mark leaves the bucket without a width
      rw [point] at below
      have flat : scale.mark (index + 1) - scale.mark index ≤ 0 :=
        nonpos_of_mul_nonpos_left (by linarith) positive
      have lower : scale.mark index ≤ scale.point index share := mark_le_point positive.le
      rw [point] at lower
      exact passed (by linarith)
    · have width : 0 < scale.mark (index + 1) - scale.mark index := by
        linarith [lt_of_not_ge passed, lt_of_not_ge short]
      rw [shareBelow, if_neg passed, if_neg short, le_div_iff₀ width, point, mul_comm share]
      constructor
      · intro below
        linarith
      · intro below
        linarith

end Bucket

section Position

variable {scale} {counts rest : List Nat} {count offset : Nat} {rank value lower upper : Scalar}

theorem exists_holdsRank (sampled : 0 < counts.sum) (inside : rank ≤ (counts.sum : Nat)) :
    ∃ offset, HoldsRank counts rank offset := by
  induction counts generalizing rank with
  | nil => cases sampled
  | cons count rest ih =>
    rw [List.sum_cons] at sampled inside
    rw [Nat.cast_add] at inside
    by_cases here : 0 < count ∧ rank ≤ count
    · exact ⟨0, .head here.1 here.2⟩
    · have passed : 0 < count → (count : Scalar) < rank := by
        intro filled
        exact lt_of_not_ge (fun reached => here ⟨filled, reached⟩)
      have more : 0 < rest.sum := by
        by_cases empty : count = 0
        · omega
        · have passed := passed (Nat.pos_of_ne_zero empty)
          have positive : (0 : Scalar) < (rest.sum : Nat) := by linarith
          exact Nat.cast_pos.mp positive
      obtain ⟨offset, held⟩ := ih more (sub_le_iff_le_add'.mpr inside)
      exact ⟨offset + 1, .later held passed⟩

theorem quantile_of_holdsRank
    (scale : Scale Scalar) (held : HoldsRank counts rank offset) (index : Nat) :
    scale.quantile counts index rank =
      some (scale.point (index + offset) (rankShare counts rank offset)) := by
  induction counts generalizing rank index offset with
  | nil => exact absurd held.filled (Nat.lt_irrefl 0)
  | cons count rest ih =>
    rw [quantile]
    cases offset with
    | zero =>
      obtain ⟨filled, reached⟩ := held.of_head
      rw [if_neg (Nat.pos_iff_ne_zero.mp filled), if_pos reached]
      simp [rankShare]
    | succ =>
      obtain ⟨later, passed⟩ := held.of_later
      have found := ih later (index + 1)
      rw [rankShare_cons, ← Nat.add_assoc, Nat.add_right_comm]
      by_cases empty : count = 0
      · subst empty
        rw [Nat.cast_zero, sub_zero] at found ⊢
        rw [if_pos rfl, found]
      · rw [if_neg empty, if_neg (not_le_of_gt (passed (Nat.pos_of_ne_zero empty))), found]

theorem sum_take_le_of_holdsRank (nonneg : 0 ≤ rank) (held : HoldsRank counts rank offset) :
    ((counts.take offset).sum : Nat) ≤ rank := by
  induction counts generalizing rank offset with
  | nil => exact absurd held.filled (Nat.lt_irrefl 0)
  | cons count rest ih =>
    cases offset with
    | zero => simpa using nonneg
    | succ =>
      obtain ⟨later, passed⟩ := held.of_later
      have remains : 0 ≤ rank - count := by
        by_cases empty : count = 0
        · rw [empty, Nat.cast_zero, sub_zero]
          exact nonneg
        · exact sub_nonneg.mpr (passed (Nat.pos_of_ne_zero empty)).le
      have before := ih remains later
      rw [List.take_succ_cons, List.sum_cons, Nat.cast_add]
      linarith

theorem rankShare_nonneg (nonneg : 0 ≤ rank) (held : HoldsRank counts rank offset) :
    0 ≤ rankShare counts rank offset :=
  div_nonneg (sub_nonneg.mpr (sum_take_le_of_holdsRank nonneg held)) (Nat.cast_nonneg _)

theorem rankShare_le_one (held : HoldsRank counts rank offset) :
    rankShare counts rank offset ≤ 1 := by
  have reached := held.reached
  rw [sum_take_succ, Nat.cast_add] at reached
  apply div_le_one_of_le₀ _ (Nat.cast_nonneg _)
  linarith

theorem mark_le_of_quantile {index : Nat} (nonneg : 0 ≤ rank)
    (found : scale.quantile counts index rank = some value) : scale.mark index ≤ value := by
  induction counts generalizing index rank with
  | nil => cases found
  | cons count rest ih =>
    have later : scale.mark index ≤ scale.mark (index + 1) := scale.ordered (Nat.le_succ index)
    rw [quantile] at found
    split at found
    · exact later.trans (ih nonneg found)
    · split at found
      · cases found
        exact mark_le_point (div_nonneg nonneg (Nat.cast_nonneg count))
      · rename_i short
        have rest : 0 ≤ rank - count := sub_nonneg.mpr (le_of_not_ge short)
        exact later.trans (ih rest found)

theorem quantile_mono
    {index : Nat} (nonneg : 0 ≤ lower) (ordered : lower ≤ upper) {small large : Scalar}
    (foundLower : scale.quantile counts index lower = some small)
    (foundUpper : scale.quantile counts index upper = some large) : small ≤ large := by
  induction counts generalizing index lower upper with
  | nil => cases foundLower
  | cons count rest ih =>
    rw [quantile] at foundLower foundUpper
    by_cases empty : count = 0
    · rw [if_pos empty] at foundLower foundUpper
      exact ih nonneg ordered foundLower foundUpper
    · rw [if_neg empty] at foundLower foundUpper
      have size : (0 : Scalar) ≤ count := Nat.cast_nonneg count
      by_cases reached : upper ≤ count
      · rw [if_pos (ordered.trans reached)] at foundLower
        rw [if_pos reached] at foundUpper
        cases foundLower
        cases foundUpper
        exact point_mono index (div_le_div_of_nonneg_right ordered size)
      · rw [if_neg reached] at foundUpper
        have passed : 0 ≤ upper - count := sub_nonneg.mpr (le_of_not_ge reached)
        by_cases here : lower ≤ count
        · -- the smaller value ends in this bucket, the larger one lies behind it
          rw [if_pos here] at foundLower
          cases foundLower
          exact
            (point_le_mark (div_le_one_of_le₀ here size)).trans
              (mark_le_of_quantile passed foundUpper)
        · rw [if_neg here] at foundLower
          exact
            ih (sub_nonneg.mpr (le_of_not_ge here))
              (sub_le_sub_right ordered _) foundLower foundUpper

end Position

section Adjunction

variable {scale} {counts : List Nat} {index : Nat} {rank value bound : Scalar}

theorem countBelow_nonneg (scale : Scale Scalar) (bound : Scalar) (counts : List Nat)
    (index : Nat) : 0 ≤ scale.countBelow bound counts index := by
  induction counts generalizing index with
  | nil => exact le_rfl
  | cons count rest ih =>
    exact
      add_nonneg (mul_nonneg (Nat.cast_nonneg count) (scale.shareBelow_nonneg index bound))
        (ih (index + 1))

omit [IsStrictOrderedRing Scalar] in
theorem mark_le_of_countBelow (some : 0 < scale.countBelow bound counts index) :
    scale.mark index ≤ bound := by
  induction counts generalizing index with
  | nil => exact absurd some (lt_irrefl 0)
  | cons count rest ih =>
    rw [countBelow] at some
    by_cases here : scale.shareBelow index bound = 0
    · rw [here, mul_zero, zero_add] at some
      exact (scale.ordered (Nat.le_succ index)).trans (ih some)
    · exact mark_le_of_shareBelow here

/-- Samples lie in the buckets behind this one only if this one lies below as a whole. -/
theorem countBelow_succ (scale : Scale Scalar) (bound : Scalar) (rest : List Nat) (index : Nat) :
    scale.countBelow bound rest (index + 1) = 0 ∨ scale.shareBelow index bound = 1 := by
  rcases (scale.countBelow_nonneg bound rest (index + 1)).eq_or_lt with none | some
  · exact Or.inl none.symm
  · exact Or.inr (shareBelow_eq_one (mark_le_of_countBelow some))

/-- The value of a rank is the least one at which the rank is reached. -/
theorem quantile_le_iff (positive : 0 < rank)
    (found : scale.quantile counts index rank = some value) :
    value ≤ bound ↔ rank ≤ scale.countBelow bound counts index := by
  induction counts generalizing index rank with
  | nil => cases found
  | cons count rest ih =>
    rw [quantile] at found
    rw [countBelow]
    by_cases empty : count = 0
    · rw [if_pos empty] at found
      rw [empty, Nat.cast_zero, zero_mul, zero_add]
      exact ih positive found
    · rw [if_neg empty] at found
      have filled : (0 : Scalar) < count := Nat.cast_pos.mpr (Nat.pos_of_ne_zero empty)
      have behind := scale.countBelow_succ bound rest index
      have part : count * scale.shareBelow index bound ≤ (count : Scalar) :=
        mul_le_of_le_one_right filled.le (scale.shareBelow_le_one index bound)
      by_cases reached : rank ≤ count
      · rw [if_pos reached] at found
        cases found
        rw [point_le_iff (div_pos positive filled) (div_le_one_of_le₀ reached filled.le),
          div_le_iff₀' filled]
        rcases behind with none | whole
        · rw [none, add_zero]
        · rw [whole, mul_one]
          have nonneg := scale.countBelow_nonneg bound rest (index + 1)
          exact iff_of_true reached (by linarith)
      · rw [if_neg reached] at found
        have passed := lt_of_not_ge reached
        rw [ih (sub_pos.mpr passed) found]
        rcases behind with none | whole
        · rw [none, add_zero]
          apply iff_of_false
          · intro below
            linarith
          · intro below
            linarith
        · rw [whole, mul_one, sub_le_iff_le_add']

end Adjunction

/-! ## Sums of histograms -/

omit [IsStrictOrderedRing Scalar] in
theorem countBelow_zipWith_add
    (bound : Scalar) {first second : List Nat} (aligned : first.length = second.length)
    (index : Nat) :
    scale.countBelow bound (List.zipWith (· + ·) first second) index =
      scale.countBelow bound first index + scale.countBelow bound second index := by
  induction first generalizing second index with
  | nil =>
    cases second with
    | nil => simp [countBelow]
    | cons => cases aligned
  | cons count rest ih =>
    cases second with
    | nil => cases aligned
    | cons =>
      rw [List.zipWith_cons_cons, countBelow, countBelow, countBelow,
        ih (Nat.succ.inj aligned), Nat.cast_add]
      ring

end Scale

/-- The value is the least one at which a count of what lies below reaches the rank. -/
def IsQuantile (below : Scalar → Scalar) (rank value : Scalar) : Prop :=
  ∀ bound, value ≤ bound ↔ rank ≤ below bound

/-- A quantile of a mixture, at the sum of the ranks, lies between the least and the
greatest quantile of its parts. -/
theorem IsQuantile.of_mixture {Part : Type v} {parts : List Part} (nonempty : parts ≠ [])
    {below : Part → Scalar → Scalar} {rank value : Part → Scalar}
    (each : ∀ part ∈ parts, IsQuantile (below part) (rank part) (value part)) {whole : Scalar}
    (mixed :
      IsQuantile (fun bound => (parts.map (fun part => below part bound)).sum)
        (parts.map rank).sum whole) :
    ∃ least ∈ parts, ∃ greatest ∈ parts,
      (∀ part ∈ parts, value least ≤ value part ∧ value part ≤ value greatest) ∧
        value least ≤ whole ∧ whole ≤ value greatest := by
  have finite : {part | part ∈ parts}.Finite := List.finite_toSet parts
  have inhabited : {part | part ∈ parts}.Nonempty := List.exists_mem_of_ne_nil parts nonempty
  obtain ⟨least, leastMember, isLeast⟩ := Set.exists_min_image _ value finite inhabited
  obtain ⟨greatest, greatestMember, isGreatest⟩ := Set.exists_max_image _ value finite inhabited
  refine
    ⟨least, leastMember, greatest, greatestMember,
      fun part member => ⟨isLeast part member, isGreatest part member⟩, ?_, ?_⟩
  · apply le_of_not_gt
    intro before
    -- below all quantiles, no part has reached its rank
    have short : ∀ part ∈ parts, below part whole < rank part := by
      intro part member
      apply lt_of_not_ge
      intro reached
      have found := (each part member whole).mpr reached
      exact absurd ((isLeast part member).trans found) (not_le_of_gt before)
    have sums := List.sum_lt_sum_of_ne_nil nonempty _ _ short
    exact absurd ((mixed whole).mp le_rfl) (not_le_of_gt sums)
  · -- at the greatest of the quantiles every part has reached its rank
    apply (mixed (value greatest)).mpr
    apply List.sum_le_sum
    intro part member
    exact (each part member (value greatest)).mp (isGreatest part member)

end Strobengine.Foundations
