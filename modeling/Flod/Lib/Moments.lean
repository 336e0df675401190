import Mathlib.Algebra.BigOperators.Group.List.Basic
import Mathlib.Algebra.BigOperators.Ring.List
import Mathlib.Tactic.FieldSimp
import Mathlib.Tactic.Ring

/-! The mean of a list of samples and the squares of their distances from it. Both are
functions of three sums: how many samples, their total and the total of their squares. -/

namespace Flod.Lib

variable {F : Type} [Field F]

def arithmeticMean (xs : List F) : F := xs.sum / (xs.length : F)

/-- The sum of the squared distances from the mean. -/
def squaredDeviations (xs : List F) : F := (xs.map (fun x => (x - arithmeticMean xs) ^ 2)).sum

/-- Bessel's correction divides by one less than the number of samples. -/
def sampleVariance (xs : List F) : F := squaredDeviations xs / ((xs.length : F) - 1)

theorem sum_squared_distances (xs : List F) (c : F) :
    (xs.map (fun x => (x - c) ^ 2)).sum =
      (xs.map (· ^ 2)).sum - 2 * c * xs.sum + (xs.length : F) * c ^ 2 := by
  induction xs with
  | nil => simp
  | cons x xs ih =>
    simp only [List.map_cons, List.sum_cons, List.length_cons, Nat.cast_add, Nat.cast_one, ih]
    ring

/-- The two totals are enough to know the distances from the mean. -/
theorem squaredDeviations_eq [CharZero F] {xs : List F} (some : xs ≠ []) :
    squaredDeviations xs = (xs.map (· ^ 2)).sum - (xs.length : F) * arithmeticMean xs ^ 2 := by
  have count : (xs.length : F) ≠ 0 := by simpa using some
  have total : xs.sum = (xs.length : F) * arithmeticMean xs := by
    rw [arithmeticMean]
    field_simp
  rw [squaredDeviations, sum_squared_distances, total]
  ring

end Flod.Lib
