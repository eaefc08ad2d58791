import Mathlib.Data.Rat.Defs
import Mathlib.Data.UInt

/-!
# Machine numbers

Unsigned 64-bit counters are read through an interface with two instances: natural
numbers, which never overflow, and 64-bit integers, which wrap. Floating-point results
are exact rationals, infinity, or not a number.
-/

namespace Strobengine.Rust

/-- A counter type: what it adds, and the number it stands for. -/
class Counter (Count : Type) extends AddCommMonoid Count where
  value : Count → Nat

instance : Counter Nat where
  value := id

instance : Counter UInt64 where
  value := UInt64.toNat

/-- An `f64` over exact rationals. -/
inductive Float64 where
  | finite (value : ℚ)
  | infinity
  | nan
  deriving DecidableEq, Repr

/-- The order of `f64`, in which what is not a number is not comparable. -/
def Float64.le : Float64 → Float64 → Prop
  | .finite value, .finite other => value ≤ other
  | .finite _, .infinity => True
  | .infinity, .infinity => True
  | _, _ => False

instance : LE Float64 where
  le := Float64.le

end Strobengine.Rust
