import Mathlib.Analysis.SpecialFunctions.Log.Base
import Mathlib.Data.Rat.Floor

/-! Exact arithmetic standing in for `f64`. An ordered field carries the four
operations and the comparisons; square root and base-two logarithm, the only
library functions a statistics pipeline calls beyond those, are parameters. -/

namespace Flod.Lib

/-- Numbers computed without rounding. The reals are the intended instance;
the rationals evaluate a model on concrete inputs. -/
class Arith (F : Type) extends Field F, LinearOrder F, IsStrictOrderedRing F where
  sqrt : F → F
  log2 : F → F
  sqrt_nonneg : ∀ x, 0 ≤ sqrt x

namespace Arith

noncomputable instance : Arith ℝ where
  sqrt := Real.sqrt
  log2 := Real.logb 2
  sqrt_nonneg := Real.sqrt_nonneg

/-- The integer square root, one bit of the root at a time from the top. -/
def isqrtBits : Nat → Nat → Nat → Nat
  | 0, _, root => root
  | bit + 1, n, root =>
      let next := root + 2 ^ bit
      if next * next ≤ n then isqrtBits bit n next else isqrtBits bit n root

def isqrt (n : Nat) : Nat := isqrtBits (Nat.log2 n / 2 + 1) n 0

/-- Exact on the squares of rationals, rounded down elsewhere. -/
def ratSqrt (x : ℚ) : ℚ := (isqrt (x.num.toNat * x.den) : ℚ) / (x.den : ℚ)

/-- Exact on the powers of two, rounded elsewhere. -/
def ratLog2 (x : ℚ) : ℚ := (Nat.log2 x.num.toNat : ℚ) - (Nat.log2 x.den : ℚ)

instance : Arith ℚ where
  sqrt := ratSqrt
  log2 := ratLog2
  sqrt_nonneg := fun _ => div_nonneg (Nat.cast_nonneg _) (Nat.cast_nonneg _)

example : (Arith.sqrt (9 / 4 : ℚ), Arith.log2 (1 / 8 : ℚ)) = (3 / 2, -3) := by decide +kernel

end Arith

end Flod.Lib
