import Strobengine.Foundations.Mixing

/-!
# Seeds for data generation

Each mixing step of SplitMix64 maps different words to different words, so with two of the three
arguments of `_derive_seed` fixed no two values of the third share a seed.
-/

namespace Strobengine.Rng

open Foundations

def mask64 : Nat :=
  2 ^ 64 - 1

def gamma : Nat :=
  0x9E3779B97F4A7C15

def mul1 : Nat :=
  0xBF58476D1CE4E5B9

def mul2 : Nat :=
  0x94D049BB133111EB

def domain : Nat :=
  0x5354524F42

def splitmix64 (value : Nat) : Nat :=
  let value := (value + gamma) &&& mask64
  let value := ((value ^^^ (value >>> 30)) * mul1) &&& mask64
  let value := ((value ^^^ (value >>> 27)) * mul2) &&& mask64
  value ^^^ (value >>> 31)

inductive SeedError where
  | typeError (message : String)
  | valueError (message : String)
  deriving DecidableEq, Repr

/-- The argument is what `operator.index` makes of it: nothing, if it is not an integer. -/
def asU64 (name : String) (index : Option Int) : Except SeedError Nat :=
  match index with
  | none => .error (.typeError (name ++ " must be an integer"))
  | some index =>
    if 0 ≤ index ∧ index ≤ mask64 then
      .ok index.toNat
    else
      .error (.valueError (name ++ " must be between 0 and 2**64 - 1"))

def deriveSeed (testSeed vuId iteration : Option Int) : Except SeedError Nat := do
  let testSeed ← asU64 "test_seed" testSeed
  let vuId ← asU64 "vu_id" vuId
  let iteration ← asU64 "iteration" iteration
  let mixed := splitmix64 (testSeed ^^^ domain)
  let mixed := splitmix64 (mixed ^^^ splitmix64 vuId)
  return splitmix64 (mixed ^^^ splitmix64 iteration)

theorem splitmix64_eq (value : Nat) :
    splitmix64 value = let added := (value + gamma) % 2 ^ 64
      let first := (added ^^^ (added >>> 30)) * mul1 % 2 ^ 64
      let second := (first ^^^ (first >>> 27)) * mul2 % 2 ^ 64
      second ^^^ (second >>> 31) := by
  simp only [splitmix64, mask64, Nat.and_two_pow_sub_one_eq_mod]

theorem mod_mem_words (value : Nat) : value % 2 ^ 64 ∈ Words 64 :=
  Nat.mod_lt value (by decide)

theorem splitmix64_mem (value : Nat) : splitmix64 value ∈ Words 64 := by
  rw [splitmix64_eq]
  exact xorShift_mem (mod_mem_words _) 31

theorem splitmix64_injOn : Set.InjOn splitmix64 (Words 64) := by
  intro first small second small' same
  rw [splitmix64_eq, splitmix64_eq] at same
  have mixed := xorShift_injective (by decide) same
  have mixed := mulMod_injOn (by decide) (xorShift_mem (mod_mem_words _) 27)
    (xorShift_mem (mod_mem_words _) 27) mixed
  have mixed := xorShift_injective (by decide) mixed
  have mixed := mulMod_injOn (by decide) (xorShift_mem (mod_mem_words _) 30)
    (xorShift_mem (mod_mem_words _) 30) mixed
  have mixed := xorShift_injective (by decide) mixed
  exact addMod_injOn gamma small small' mixed

theorem splitmix64_inj {first second : Nat} (small : first ∈ Words 64)
    (small' : second ∈ Words 64) :
    splitmix64 first = splitmix64 second ↔ first = second :=
  splitmix64_injOn.eq_iff small small'

theorem xor_mem {first second : Nat} (small : first ∈ Words 64) (small' : second ∈ Words 64) :
    first ^^^ second ∈ Words 64 :=
  Nat.xor_lt_two_pow small small'

def argument (word : UInt64) : Option Int :=
  some word.toNat

theorem word_mem (word : UInt64) : word.toNat ∈ Words 64 :=
  word.toNat_lt

theorem deriveSeed_argument (testSeed vuId iteration : UInt64) :
    deriveSeed (argument testSeed) (argument vuId) (argument iteration) =
      .ok
        (splitmix64
          (splitmix64 (splitmix64 (testSeed.toNat ^^^ domain) ^^^ splitmix64 vuId.toNat) ^^^
            splitmix64 iteration.toNat)) := by
  have accepted (name : String) (word : UInt64) : asU64 name (argument word) = .ok word.toNat := by
    have bound : (word.toNat : Int) ≤ mask64 := by
      have := word.toNat_lt
      simp only [mask64]
      omega
    simp only [asU64, argument, if_pos (And.intro (Int.natCast_nonneg _) bound), Int.toNat_natCast]
  simp only [deriveSeed, accepted]
  rfl

/-- With two of the arguments fixed, the seed is an injective function of the third. -/
theorem derived_seeds_distinct :
    (∀ testSeed vuId iteration : UInt64,
        ∃ seed < 2 ^ 64,
          deriveSeed (argument testSeed) (argument vuId) (argument iteration) = .ok seed) ∧
      (∀ testSeed vuId : UInt64,
        Function.Injective (fun iteration : UInt64 =>
          deriveSeed (argument testSeed) (argument vuId) (argument iteration))) ∧
      (∀ testSeed iteration : UInt64,
        Function.Injective (fun vuId : UInt64 =>
          deriveSeed (argument testSeed) (argument vuId) (argument iteration))) ∧
      ∀ vuId iteration : UInt64,
        Function.Injective (fun testSeed : UInt64 =>
          deriveSeed (argument testSeed) (argument vuId) (argument iteration)) := by
  have domain_mem : domain ∈ Words 64 := by
    change domain < 2 ^ 64
    decide
  have mixed_mem (value other : Nat) : splitmix64 value ^^^ splitmix64 other ∈ Words 64 :=
    xor_mem (splitmix64_mem value) (splitmix64_mem other)
  refine ⟨?_, ?_, ?_, ?_⟩
  · intro testSeed vuId iteration
    exact ⟨_, splitmix64_mem _, deriveSeed_argument testSeed vuId iteration⟩
  · intro testSeed vuId first second same
    simp only [deriveSeed_argument, Except.ok.injEq, splitmix64_inj (mixed_mem _ _) (mixed_mem _ _),
      Nat.xor_right_inj, splitmix64_inj (word_mem _) (word_mem _)] at same
    exact UInt64.toNat_inj.mp same
  · intro testSeed iteration first second same
    simp only [deriveSeed_argument, Except.ok.injEq, splitmix64_inj (mixed_mem _ _) (mixed_mem _ _),
      Nat.xor_left_inj, Nat.xor_right_inj, splitmix64_inj (word_mem _) (word_mem _)] at same
    exact UInt64.toNat_inj.mp same
  · intro vuId iteration first second same
    have seeded (word : UInt64) : word.toNat ^^^ domain ∈ Words 64 :=
      xor_mem (word_mem word) domain_mem
    simp only [deriveSeed_argument, Except.ok.injEq, splitmix64_inj (mixed_mem _ _) (mixed_mem _ _),
      Nat.xor_left_inj, splitmix64_inj (seeded _) (seeded _)] at same
    exact UInt64.toNat_inj.mp same

end Strobengine.Rng
