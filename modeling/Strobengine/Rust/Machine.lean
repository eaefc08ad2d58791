import Mathlib.Algebra.Group.Int.Defs
import Mathlib.Algebra.Group.Nat.Defs
import Mathlib.Data.List.Basic

/-!
# Machine integers and panics

What the code computes with 64-bit integers is computed exactly and then stored. A value
that does not fit panics in a debug build and wraps around in a release build.
-/

namespace Strobengine.Rust

inductive Build where
  | debug
  | release
  deriving DecidableEq, Repr

inductive Panic where
  | overflow
  | invertedRange
  | outOfRange
  deriving DecidableEq, Repr

def FitsUInt64 (value : Nat) : Prop :=
  value < 2 ^ 64
  deriving Decidable

theorem FitsUInt64.mono {small large : Nat} (fits : FitsUInt64 large) (atMost : small ≤ large) :
    FitsUInt64 small :=
  Nat.lt_of_le_of_lt atMost fits

def FitsInt64 (value : Int) : Prop :=
  -2 ^ 63 ≤ value ∧ value < 2 ^ 63
  deriving Decidable

namespace Build

/-- Store the exact result of a computation in a `u64`. -/
def uint64 (build : Build) (exact : Nat) : Except Panic Nat :=
  if FitsUInt64 exact then
    .ok exact
  else
    match build with
    | .debug => .error .overflow
    | .release => .ok (exact % 2 ^ 64)

/-- Store the exact result of a computation in an `i64`. -/
def int64 (build : Build) (exact : Int) : Except Panic Int :=
  if FitsInt64 exact then
    .ok exact
  else
    match build with
    | .debug => .error .overflow
    | .release => .ok (exact.bmod (2 ^ 64))

theorem uint64_of_fits (build : Build) {exact : Nat} (fits : FitsUInt64 exact) :
    build.uint64 exact = .ok exact :=
  if_pos fits

theorem int64_of_fits (build : Build) {exact : Int} (fits : FitsInt64 exact) :
    build.int64 exact = .ok exact :=
  if_pos fits

theorem fits_of_uint64 (build : Build) {exact stored : Nat}
    (computed : build.uint64 exact = .ok stored) : FitsUInt64 stored := by
  unfold uint64 at computed
  split at computed
  · rename_i fits
    rwa [Except.ok.inj computed] at fits
  · cases build with
    | debug => cases computed
    | release =>
      rw [← Except.ok.inj computed]
      exact Nat.mod_lt exact (by decide)

theorem uint64_debug_eq_ok_iff {exact stored : Nat} :
    debug.uint64 exact = .ok stored ↔ FitsUInt64 exact ∧ exact = stored := by
  unfold uint64
  split
  · rename_i fits
    simp [fits]
  · rename_i large
    simp [large]

theorem int64_debug_eq_ok_iff {exact stored : Int} :
    debug.int64 exact = .ok stored ↔ FitsInt64 exact ∧ exact = stored := by
  unfold int64
  split
  · rename_i fits
    simp [fits]
  · rename_i large
    simp [large]

end Build

section Except

universe u v

variable {Error : Type u} {Value Result Item : Type v}

theorem ok_bind (value : Value) (next : Value → Except Error Result) :
    (Except.ok value >>= next) = next value :=
  rfl

theorem bind_eq_ok_iff
    {first : Except Error Value} {next : Value → Except Error Result} {result : Result} :
    (first >>= next) = .ok result ↔ ∃ value, first = .ok value ∧ next value = .ok result := by
  cases first with
  | error =>
    constructor
    · intro absurd
      cases absurd
    · rintro ⟨value, absurd, _⟩
      cases absurd
  | ok value =>
    constructor
    · intro succeeded
      exact ⟨value, rfl, succeeded⟩
    · rintro ⟨value', same, succeeded⟩
      cases same
      exact succeeded

theorem mapM_eq_ok
    {items : List Item} {compute : Item → Except Error Result} {exact : Item → Result}
    (each : ∀ item ∈ items, compute item = .ok (exact item)) :
    items.mapM compute = .ok (items.map exact) := by
  induction items with
  | nil => rfl
  | cons item rest ih =>
    rw [List.mapM_cons, each item List.mem_cons_self, ok_bind,
      ih (fun other member => each other (List.mem_cons_of_mem _ member))]
    rfl

theorem foldlM_eq_ok {items : List Item} {step : Value → Item → Except Error Value}
    {exact : Value → Item → Value} {start : Value}
    (each :
      ∀ before item after, items = before ++ item :: after →
        step (before.foldl exact start) item = .ok (exact (before.foldl exact start) item)) :
    items.foldlM step start = .ok (items.foldl exact start) := by
  induction items generalizing start with
  | nil => rfl
  | cons item rest ih =>
    rw [List.foldlM_cons, List.foldl_cons]
    have first : step start item = .ok (exact start item) := each [] item rest rfl
    rw [first, ok_bind]
    apply ih
    intro before other after split
    have next := each (item :: before) other after (by rw [split]; rfl)
    rwa [List.foldl_cons] at next

end Except

end Strobengine.Rust
