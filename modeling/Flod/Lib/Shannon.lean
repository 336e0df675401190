import Mathlib.Analysis.Convex.Jensen
import Mathlib.Analysis.SpecialFunctions.BinaryEntropy

/-! Shannon entropy of finitely many weights, in natural units. It is largest when the
weights are equal, at least what the largest weight alone would leave, and at most what is
left once one weight is told apart from all others. -/

namespace Flod.Lib
open Real

variable {ι : Type*} {s : Finset ι} {p : ι → ℝ}

noncomputable def shannon (s : Finset ι) (p : ι → ℝ) : ℝ := ∑ i ∈ s, negMulLog (p i)

theorem shannon_pos {j : ι} (member : j ∈ s) (low : ∀ i ∈ s, 0 ≤ p i) (high : ∀ i ∈ s, p i ≤ 1)
    (inside : 0 < p j ∧ p j < 1) : 0 < shannon s p := by
  apply Finset.sum_pos' (fun i here => negMulLog_nonneg (low i here) (high i here))
  refine ⟨j, member, ?_⟩
  rw [negMulLog_eq_neg]
  exact neg_pos.mpr (mul_log_neg inside.1 inside.2)

theorem mul_negMulLog_div {n : ℝ} (positive : n ≠ 0) (total : ℝ) :
    n * negMulLog (total * n⁻¹) = negMulLog total + total * log n := by
  have even : negMulLog n⁻¹ = n⁻¹ * log n := by
    rw [negMulLog, log_inv]
    ring
  rw [negMulLog_mul, even, mul_add]
  field_simp

theorem sum_share (x : ι → ℝ) : ∑ i ∈ s, (s.card : ℝ)⁻¹ • x i = (∑ i ∈ s, x i) * (s.card : ℝ)⁻¹ := by
  rw [← Finset.smul_sum, smul_eq_mul, mul_comm]

section Jensen

variable (some : s.Nonempty) (low : ∀ i ∈ s, 0 ≤ p i)

include some

theorem sum_even : ∑ _i ∈ s, (s.card : ℝ)⁻¹ = 1 := by
  rw [Finset.sum_const, nsmul_eq_mul]
  exact mul_inv_cancel₀ (by exact_mod_cast some.card_pos.ne')

include low

theorem shannon_le_even : shannon s p ≤ negMulLog (∑ i ∈ s, p i) + (∑ i ∈ s, p i) * log s.card := by
  have positive : (0 : ℝ) < s.card := by exact_mod_cast some.card_pos
  have jensen := concaveOn_negMulLog.le_map_sum (fun _ _ => (inv_pos.mpr positive).le) (sum_even some) low
  rw [sum_share, sum_share] at jensen
  calc shannon s p
      = (s.card : ℝ) * (shannon s p * (s.card : ℝ)⁻¹) := by field_simp
    _ ≤ (s.card : ℝ) * negMulLog ((∑ i ∈ s, p i) * (s.card : ℝ)⁻¹) :=
        mul_le_mul_of_nonneg_left jensen positive.le
    _ = negMulLog (∑ i ∈ s, p i) + (∑ i ∈ s, p i) * log s.card := mul_negMulLog_div positive.ne' _

theorem shannon_eq_even_iff :
    shannon s p = negMulLog (∑ i ∈ s, p i) + (∑ i ∈ s, p i) * log s.card ↔
      ∀ i ∈ s, ∀ j ∈ s, p i = p j := by
  have positive : (s.card : ℝ) ≠ 0 := by exact_mod_cast some.card_pos.ne'
  have jensen := strictConcaveOn_negMulLog.map_sum_eq_iff_of_pos
    (fun _ _ => inv_pos.mpr (by exact_mod_cast some.card_pos)) (sum_even some) low
  rw [sum_share, sum_share] at jensen
  rw [← mul_negMulLog_div positive]
  constructor
  · intro same
    apply jensen.mp
    change _ = shannon s p * _
    rw [same]
    field_simp
  · intro equal
    rw [jensen.mpr equal, shannon]
    field_simp

end Jensen

theorem neg_log_le_shannon {m : ℝ} (low : ∀ i ∈ s, 0 ≤ p i) (high : ∀ i ∈ s, p i ≤ m)
    (total : ∑ i ∈ s, p i = 1) : -log m ≤ shannon s p := by
  have each : ∀ i ∈ s, p i * -log m ≤ negMulLog (p i) := by
    intro i member
    rcases (low i member).eq_or_lt with zero | positive
    · rw [← zero]
      simp
    · have logs : log (p i) ≤ log m := log_le_log positive (high i member)
      calc p i * -log m
          ≤ p i * -log (p i) := mul_le_mul_of_nonneg_left (neg_le_neg logs) positive.le
        _ = negMulLog (p i) := by rw [negMulLog]; ring
  calc -log m
      = ∑ i ∈ s, p i * -log m := by rw [← Finset.sum_mul, total, one_mul]
    _ ≤ shannon s p := Finset.sum_le_sum each

/-- One weight against all others: whether it is that one, and else which of the others. -/
theorem shannon_le_binEntropy [DecidableEq ι] {j : ι} (member : j ∈ s) (two : 2 ≤ s.card)
    (low : ∀ i ∈ s, 0 ≤ p i) (total : ∑ i ∈ s, p i = 1) :
    shannon s p ≤ binEntropy (p j) + (1 - p j) * log (s.card - 1) := by
  have others : (s.erase j).card = s.card - 1 := Finset.card_erase_of_mem member
  have some : (s.erase j).Nonempty := by
    apply Finset.card_pos.mp
    omega
  have rest : ∑ i ∈ s.erase j, p i = 1 - p j := by
    rw [← total, ← Finset.add_sum_erase s p member]
    ring
  have spread := shannon_le_even some (fun i here => low i (Finset.mem_of_mem_erase here))
  have count : ((s.erase j).card : ℝ) = s.card - 1 := by
    rw [others, Nat.cast_sub (by omega), Nat.cast_one]
  rw [rest, count] at spread
  calc shannon s p
      = negMulLog (p j) + shannon (s.erase j) p := (Finset.add_sum_erase s _ member).symm
    _ ≤ negMulLog (p j) + (negMulLog (1 - p j) + (1 - p j) * log (s.card - 1)) :=
        add_le_add_right spread _
    _ = binEntropy (p j) + (1 - p j) * log (s.card - 1) := by
        rw [binEntropy_eq_negMulLog_add_negMulLog_one_sub]
        ring

end Flod.Lib
