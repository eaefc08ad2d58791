import Mathlib.Data.Nat.Bitwise
import Mathlib.Data.Nat.ModEq
import Mathlib.Data.Set.Function

/-!
# Steps of a mixing function

The steps from which mixers of fixed-width words are made: adding a constant, multiplying by
an odd one, both modulo a power of two, and xoring a word with itself shifted right.
-/

namespace Strobengine.Foundations

def Words (width : Nat) : Set Nat :=
  { word | word < 2 ^ width }

variable {width : Nat}

theorem xorShift_mem {word : Nat} (small : word ∈ Words width) (shift : Nat) :
    word ^^^ (word >>> shift) ∈ Words width := by
  have shifted : word >>> shift ∈ Words width := (Nat.shiftRight_le word shift).trans_lt small
  exact Nat.xor_lt_two_pow small shifted

/-- The difference of two words that are mixed alike is its own shift, hence zero. -/
theorem xorShift_injective {shift : Nat} (positive : 0 < shift) :
    Function.Injective (fun word : Nat => word ^^^ (word >>> shift)) := by
  intro first second same
  have difference : first ^^^ second = (first ^^^ second) >>> shift := by
    rw [Nat.shiftRight_xor_distrib]
    apply Nat.eq_of_testBit_eq
    intro index
    have bits := congrArg (fun word => word.testBit index) same
    simp only [Nat.testBit_xor] at bits ⊢
    grind
  by_contra different
  have positive_difference := Nat.pos_of_ne_zero (Nat.xor_ne_zero_iff.mpr different)
  have smaller := Nat.div_lt_self positive_difference (Nat.one_lt_two_pow positive.ne')
  rw [← Nat.shiftRight_eq_div_pow, ← difference] at smaller
  exact Nat.lt_irrefl _ smaller

theorem eq_of_modEq_words {first second : Nat} (small : first ∈ Words width)
    (small' : second ∈ Words width) (same : first ≡ second [MOD 2 ^ width]) :
    first = second :=
  same.eq_of_lt_of_lt small small'

theorem addMod_injOn (constant : Nat) :
    Set.InjOn (fun word => (word + constant) % 2 ^ width) (Words width) := by
  intro first small second small' same
  exact eq_of_modEq_words small small' (Nat.ModEq.add_right_cancel' constant same)

theorem mulMod_injOn {factor : Nat} (odd : Nat.Coprime 2 factor) :
    Set.InjOn (fun word => (word * factor) % 2 ^ width) (Words width) := by
  intro first small second small' same
  have coprime : (2 ^ width).gcd factor = 1 := Nat.Coprime.pow_left width odd
  exact eq_of_modEq_words small small' (Nat.ModEq.cancel_right_of_coprime coprime same)

end Strobengine.Foundations
