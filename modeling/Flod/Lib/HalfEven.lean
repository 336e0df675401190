import Mathlib.Algebra.Order.Field.Basic
import Mathlib.Algebra.Order.Floor.Ring
import Mathlib.Tactic.Linarith
import Mathlib.Tactic.Positivity

/-! Rounding to the nearest integer, and to a number of decimal digits, with ties to the even
neighbour. -/

namespace Flod.Lib

variable {F : Type} [Field F] [LinearOrder F] [IsStrictOrderedRing F] [FloorRing F]

def roundHalfEven (x : F) : ℤ :=
  if Int.fract x + Int.fract x < 1 then ⌊x⌋
  else if 1 < Int.fract x + Int.fract x then ⌊x⌋ + 1
  else if ⌊x⌋ % 2 = 0 then ⌊x⌋ else ⌊x⌋ + 1

omit [IsStrictOrderedRing F] in
/-- Rounded down below the middle and up above it; in the middle to the even neighbour. -/
theorem roundHalfEven_cases (x : F) :
    (roundHalfEven x = ⌊x⌋ ∧ (Int.fract x + Int.fract x < 1 ∨ Int.fract x + Int.fract x = 1 ∧ ⌊x⌋ % 2 = 0)) ∨
      (roundHalfEven x = ⌊x⌋ + 1 ∧
        (1 < Int.fract x + Int.fract x ∨ Int.fract x + Int.fract x = 1 ∧ ⌊x⌋ % 2 = 1)) := by
  unfold roundHalfEven
  split
  · rename_i low
    exact .inl ⟨rfl, .inl low⟩
  · rename_i notLow
    split
    · rename_i high
      exact .inr ⟨rfl, .inl high⟩
    · rename_i notHigh
      have tie : Int.fract x + Int.fract x = 1 := le_antisymm (not_lt.mp notHigh) (not_lt.mp notLow)
      split
      · rename_i even
        exact .inl ⟨rfl, .inr ⟨tie, even⟩⟩
      · rename_i odd
        exact .inr ⟨rfl, .inr ⟨tie, by omega⟩⟩

theorem roundHalfEven_le (x : F) : (roundHalfEven x : F) ≤ x + 1 / 2 := by
  have parts := Int.floor_add_fract x
  have nonneg := Int.fract_nonneg x
  rcases roundHalfEven_cases x with ⟨down, -⟩ | ⟨up, high⟩
  · rw [down]
    linarith
  · have half : 1 ≤ Int.fract x + Int.fract x := by
      rcases high with above | ⟨tie, -⟩
      · exact above.le
      · exact tie.ge
    rw [up, Int.cast_add, Int.cast_one]
    linarith

theorem le_roundHalfEven (x : F) : x - 1 / 2 ≤ (roundHalfEven x : F) := by
  have parts := Int.floor_add_fract x
  have below := Int.fract_lt_one x
  rcases roundHalfEven_cases x with ⟨down, low⟩ | ⟨up, -⟩
  · have half : Int.fract x + Int.fract x ≤ 1 := by
      rcases low with beneath | ⟨tie, -⟩
      · exact beneath.le
      · exact tie.le
    rw [down]
    linarith
  · rw [up, Int.cast_add, Int.cast_one]
    linarith

/-- What lies in the middle below an even number is rounded up to it. -/
theorem roundHalfEven_lt_iff {x : F} {m : ℤ} (even : m % 2 = 0) : roundHalfEven x < m ↔ x < (m : F) - 1 / 2 := by
  have parts := Int.floor_add_fract x
  apply Iff.intro
  · intro less
    have step : (roundHalfEven x : F) ≤ (m : F) - 1 := by
      have below : roundHalfEven x ≤ m - 1 := by omega
      calc (roundHalfEven x : F) ≤ ((m - 1 : ℤ) : F) := Int.cast_le.mpr below
        _ = (m : F) - 1 := by rw [Int.cast_sub, Int.cast_one]
    refine lt_of_le_of_ne ?_ ?_
    · linarith [le_roundHalfEven x]
    · -- in the middle the floor is odd, so that the number is rounded up
      intro middle
      have floor_eq : ⌊x⌋ = m - 1 := by
        rw [Int.floor_eq_iff, Int.cast_sub, Int.cast_one]
        constructor
        · linarith
        · linarith
      have fract_eq : Int.fract x + Int.fract x = 1 := by
        rw [floor_eq, Int.cast_sub, Int.cast_one] at parts
        linarith
      rcases roundHalfEven_cases x with ⟨-, low | ⟨-, floor_even⟩⟩ | ⟨up, -⟩
      · exact absurd fract_eq low.ne
      · omega
      · omega
  · intro less
    have close := roundHalfEven_le x
    have under : (roundHalfEven x : F) < (m : F) := by linarith
    exact Int.cast_lt.mp under

/-- `round(x, digits)`. -/
def roundTo (digits : Nat) (x : F) : F :=
  (roundHalfEven (x * ((10 ^ digits : Nat) : F)) : F) / ((10 ^ digits : Nat) : F)

omit [FloorRing F] in
theorem ten_pow_pos (digits : Nat) : (0 : F) < ((10 ^ digits : Nat) : F) := by
  have pos : 0 < 10 ^ digits := by positivity
  exact Nat.cast_pos.mpr pos

theorem roundTo_le (digits : Nat) (x : F) : roundTo digits x ≤ x + 1 / 2 / ((10 ^ digits : Nat) : F) := by
  have scale := ten_pow_pos (F := F) digits
  have close := roundHalfEven_le (x * ((10 ^ digits : Nat) : F))
  rw [roundTo, div_le_iff₀ scale, add_mul, div_mul_cancel₀ _ scale.ne']
  exact close

theorem le_roundTo (digits : Nat) (x : F) : x - 1 / 2 / ((10 ^ digits : Nat) : F) ≤ roundTo digits x := by
  have scale := ten_pow_pos (F := F) digits
  have close := le_roundHalfEven (x * ((10 ^ digits : Nat) : F))
  rw [roundTo, le_div_iff₀ scale, sub_mul, div_mul_cancel₀ _ scale.ne']
  exact close

theorem roundTo_lt_iff {digits : Nat} {x : F} {m : ℤ} (even : m % 2 = 0) :
    roundTo digits x < (m : F) / ((10 ^ digits : Nat) : F) ↔ x * ((10 ^ digits : Nat) : F) < (m : F) - 1 / 2 := by
  rw [roundTo, div_lt_div_iff_of_pos_right (ten_pow_pos digits), Int.cast_lt]
  exact roundHalfEven_lt_iff even

end Flod.Lib
