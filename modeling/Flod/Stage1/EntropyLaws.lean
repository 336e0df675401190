import Flod.Lib.Shannon
import Flod.Stage1.Accumulators

/-! The normalized entropy over the reals: where it lies, where it is extreme, and what it
says about the largest share. -/

namespace Flod.Stage1
open Flod.Lib Real

variable {K : Type}

/-- The share of each count in a total. -/
noncomputable def share (counts : List Nat) (total : Nat) (i : Fin counts.length) : ℝ :=
  (counts.get i : ℝ) / (total : ℝ)

section Shares

variable {counts : List Nat}

theorem share_nonneg (total : Nat) (i : Fin counts.length) : 0 ≤ share counts total i := by
  unfold share
  positivity

theorem share_pos (positive : ∀ c ∈ counts, 0 < c) {total : Nat} (nonempty : 0 < total)
    (i : Fin counts.length) : 0 < share counts total i := by
  have here : 0 < counts.get i := positive _ (List.get_mem counts i)
  unfold share
  positivity

theorem sum_share_eq_one (nonempty : 0 < counts.sum) : ∑ i, share counts counts.sum i = 1 := by
  have total : ∑ i : Fin counts.length, (counts.get i : ℝ) = (counts.sum : ℝ) := by
    have sums := Fin.sum_univ_fun_getElem counts (fun c => (c : ℝ))
    rw [Nat.cast_list_sum]
    exact sums
  have positive : (counts.sum : ℝ) ≠ 0 := by exact_mod_cast nonempty.ne'
  simp only [share]
  rw [← Finset.sum_div, total, div_self positive]

theorem share_le_one (nonempty : 0 < counts.sum) (i : Fin counts.length) : share counts counts.sum i ≤ 1 := by
  rw [← sum_share_eq_one nonempty]
  exact Finset.single_le_sum (fun j _ => share_nonneg _ j) (Finset.mem_univ i)

theorem sum_pos_of_two (positive : ∀ c ∈ counts, 0 < c) (two : 2 ≤ counts.length) : 0 < counts.sum := by
  cases counts with
  | nil => simp at two
  | cons c rest =>
    have first := positive c List.mem_cons_self
    rw [List.sum_cons]
    omega

theorem share_lt_one (positive : ∀ c ∈ counts, 0 < c) (two : 2 ≤ counts.length) (i : Fin counts.length) :
    share counts counts.sum i < 1 := by
  have nonempty := sum_pos_of_two positive two
  obtain ⟨j, apart⟩ : ∃ j : Fin counts.length, j ≠ i := by
    have more : Nontrivial (Fin counts.length) := Fin.nontrivial_iff_two_le.mpr two
    exact exists_ne i
  rw [← sum_share_eq_one nonempty]
  apply Finset.single_lt_sum apart (Finset.mem_univ i) (Finset.mem_univ j)
  · exact share_pos positive nonempty j
  · exact fun k _ _ => share_nonneg _ k

end Shares

section Laws

theorem values_length (counts : Dict K Nat) : counts.values.length = counts.size := by
  simp [Dict.values, Dict.size]

/-- The code's base-two quotient is the entropy of the shares over the logarithm of their number. -/
theorem computeNormalizedEntropy_eq {counts : Dict K Nat} (positive : ∀ c ∈ counts.values, 0 < c)
    (two : 2 ≤ counts.size) {total : Nat} (nonempty : 0 < total) :
    computeNormalizedEntropy counts total =
      shannon Finset.univ (share counts.values total) / log counts.size := by
  have kept : counts.values.filter (fun c => decide (0 < c)) = counts.values := by
    rw [List.filter_eq_self]
    exact fun c member => decide_eq_true (positive c member)
  have base : log (2 : ℝ) ≠ 0 := (log_pos (by norm_num)).ne'
  have raw : (counts.values.map (fun (c : Nat) => -((c : ℝ) / (total : ℝ)) * logb 2 ((c : ℝ) / (total : ℝ)))).sum =
      shannon Finset.univ (share counts.values total) / log 2 := by
    rw [← Fin.sum_univ_fun_getElem, shannon, Finset.sum_div]
    apply Finset.sum_congr rfl
    intro i _
    simp only [share, negMulLog, logb, List.get_eq_getElem]
    ring
  have enough : ¬ counts.size ≤ 1 := by omega
  simp only [computeNormalizedEntropy, nonempty.ne', if_false, enough, kept]
  change (counts.values.map (fun (c : Nat) =>
    -((c : ℝ) / (total : ℝ)) * logb 2 ((c : ℝ) / (total : ℝ)))).sum / logb 2 (counts.size : ℝ) = _
  rw [raw, logb]
  field_simp

theorem computeNormalizedEntropy_of_size_le (counts : Dict K Nat) (total : Nat) (few : counts.size ≤ 1) :
    (computeNormalizedEntropy counts total : ℝ) = 0 := by
  unfold computeNormalizedEntropy
  split
  · rfl
  · exact if_pos few

variable {counts : Dict K Nat} (positive : ∀ c ∈ counts.values, 0 < c) (two : 2 ≤ counts.size)

include two

theorem log_size_pos : 0 < log (counts.size : ℝ) := by
  apply log_pos
  exact_mod_cast two

theorem univ_nonempty : (Finset.univ : Finset (Fin counts.values.length)).Nonempty := by
  rw [Finset.univ_nonempty_iff, ← Fin.pos_iff_nonempty, values_length]
  omega

include positive

theorem values_sum_pos : 0 < counts.values.sum := by
  apply sum_pos_of_two positive
  rwa [values_length]

/-- The entropy of the shares is the scalar times the logarithm of the number of keys. -/
theorem shannon_eq : shannon Finset.univ (share counts.values counts.values.sum) =
    computeNormalizedEntropy counts counts.values.sum * log counts.size := by
  rw [computeNormalizedEntropy_eq positive two (values_sum_pos positive two)]
  have apart := (log_size_pos two).ne'
  field_simp

theorem shannon_even : negMulLog (∑ i, share counts.values counts.values.sum i) +
    (∑ i, share counts.values counts.values.sum i) * log (Finset.univ : Finset (Fin counts.values.length)).card =
      log counts.size := by
  rw [sum_share_eq_one (values_sum_pos positive two), Finset.card_univ, Fintype.card_fin, values_length]
  simp

theorem computeNormalizedEntropy_pos : (0 : ℝ) < computeNormalizedEntropy counts counts.values.sum := by
  have nonempty := values_sum_pos positive two
  obtain ⟨i, -⟩ := univ_nonempty two
  have some := shannon_pos (Finset.mem_univ i) (fun j _ => share_nonneg counts.values.sum j)
    (fun j _ => share_le_one nonempty j)
    ⟨share_pos positive nonempty i, share_lt_one positive (by rwa [values_length]) i⟩
  rw [shannon_eq positive two] at some
  exact pos_of_mul_pos_left some (log_size_pos two).le

theorem computeNormalizedEntropy_le_one : (computeNormalizedEntropy counts counts.values.sum : ℝ) ≤ 1 := by
  have most := shannon_le_even (univ_nonempty two) (fun j _ => share_nonneg counts.values.sum j)
  rw [shannon_even positive two, shannon_eq positive two] at most
  exact le_of_mul_le_mul_right (by rwa [one_mul]) (log_size_pos two)

theorem computeNormalizedEntropy_eq_one_iff :
    (computeNormalizedEntropy counts counts.values.sum : ℝ) = 1 ↔
      ∀ a ∈ counts.values, ∀ b ∈ counts.values, a = b := by
  have even := shannon_eq_even_iff (univ_nonempty two)
    (fun j _ => share_nonneg counts.values.sum j)
  rw [shannon_even positive two, shannon_eq positive two, mul_eq_right₀ (log_size_pos two).ne'] at even
  rw [even]
  have total : (counts.values.sum : ℝ) ≠ 0 := by exact_mod_cast (values_sum_pos positive two).ne'
  have shares : ∀ i j, share counts.values counts.values.sum i = share counts.values counts.values.sum j ↔
      counts.values.get i = counts.values.get j := by
    intro i j
    rw [share, share, div_left_inj' total, Nat.cast_inj]
  constructor
  · intro equal a atA b atB
    obtain ⟨i, rfl⟩ := List.get_of_mem atA
    obtain ⟨j, rfl⟩ := List.get_of_mem atB
    exact (shares i j).mp (equal i (Finset.mem_univ i) j (Finset.mem_univ j))
  · intro equal i _ j _
    exact (shares i j).mpr (equal _ (List.get_mem _ i) _ (List.get_mem _ j))

/-! The largest share against the scalar. -/

theorem rpow_neg_le_share {j : Fin counts.values.length}
    (largest : ∀ i, share counts.values counts.values.sum i ≤ share counts.values counts.values.sum j) :
    (counts.size : ℝ) ^ (-(computeNormalizedEntropy counts counts.values.sum : ℝ)) ≤
      share counts.values counts.values.sum j := by
  have nonempty := values_sum_pos positive two
  have least := neg_log_le_shannon (fun i _ => share_nonneg counts.values.sum i) (fun i _ => largest i)
    (sum_share_eq_one nonempty)
  have keys : (0 : ℝ) < counts.size := by exact_mod_cast (by omega : 0 < counts.size)
  rw [shannon_eq positive two] at least
  rw [rpow_def_of_pos keys, ← le_log_iff_exp_le (share_pos positive nonempty j)]
  linarith

/-- Fano's inequality, in bits. -/
theorem mul_logb_le_share (j : Fin counts.values.length) :
    (computeNormalizedEntropy counts counts.values.sum : ℝ) * logb 2 counts.size ≤
      binEntropy (share counts.values counts.values.sum j) / log 2 +
        (1 - share counts.values counts.values.sum j) * logb 2 (counts.size - 1) := by
  have most := shannon_le_binEntropy (Finset.mem_univ j) (by simpa [values_length] using two)
    (fun i _ => share_nonneg counts.values.sum i) (sum_share_eq_one (values_sum_pos positive two))
  rw [shannon_eq positive two, Finset.card_univ, Fintype.card_fin, values_length] at most
  have base : 0 < log (2 : ℝ) := log_pos (by norm_num)
  calc (computeNormalizedEntropy counts counts.values.sum : ℝ) * logb 2 counts.size
      = computeNormalizedEntropy counts counts.values.sum * log counts.size / log 2 := by
        rw [logb, mul_div_assoc]
    _ ≤ (binEntropy (share counts.values counts.values.sum j) +
          (1 - share counts.values counts.values.sum j) * log (counts.size - 1)) / log 2 :=
        div_le_div_of_nonneg_right most base.le
    _ = binEntropy (share counts.values counts.values.sum j) / log 2 +
          (1 - share counts.values counts.values.sum j) * logb 2 (counts.size - 1) := by
        rw [logb, add_div, mul_div_assoc]

end Laws

/-- A common factor leaves every share as it is. -/
theorem computeNormalizedEntropy_mapValues (counts : Dict K Nat) {m : Nat} (some : 0 < m) :
    (computeNormalizedEntropy (counts.mapValues (m * ·)) (counts.mapValues (m * ·)).values.sum : ℝ) =
      computeNormalizedEntropy counts counts.values.sum := by
  have values : (counts.mapValues (m * ·)).values = counts.values.map (m * ·) := by
    simp [Dict.values, Dict.mapValues, Function.comp_def]
  have total : (counts.values.map (m * ·)).sum = m * counts.values.sum := by
    simpa using List.sum_map_mul_left counts.values id m
  have factor : (m : ℝ) ≠ 0 := by exact_mod_cast some.ne'
  have none : m * counts.values.sum = 0 ↔ counts.values.sum = 0 := by
    rw [Nat.mul_eq_zero]
    omega
  have shares : ∀ c : Nat, ((m * c : Nat) : ℝ) / ((m * counts.values.sum : Nat) : ℝ) =
      (c : ℝ) / (counts.values.sum : ℝ) := by
    intro c
    rw [Nat.cast_mul, Nat.cast_mul, mul_div_mul_left _ _ factor]
  have kept : (counts.values.map (m * ·)).filter (fun c => decide (0 < c)) =
      (counts.values.filter (fun c => decide (0 < c))).map (m * ·) := by
    rw [List.filter_map]
    congr 1
    apply List.filter_congr
    intro c _
    simp [some]
  simp only [computeNormalizedEntropy, values, total, none, Dict.size_mapValues, kept, List.map_map,
    Function.comp_def, shares]

/-- The four laws of the scalar, for positive counts with their sum as total. -/
theorem entropy_laws (counts : Dict K Nat) (positive : ∀ c ∈ counts.values, 0 < c) :
    (0 ≤ (computeNormalizedEntropy counts counts.values.sum : ℝ) ∧
        (computeNormalizedEntropy counts counts.values.sum : ℝ) ≤ 1) ∧
      ((computeNormalizedEntropy counts counts.values.sum : ℝ) = 0 ↔ counts.size ≤ 1) ∧
      (2 ≤ counts.size → ((computeNormalizedEntropy counts counts.values.sum : ℝ) = 1 ↔
        ∀ a ∈ counts.values, ∀ b ∈ counts.values, a = b)) ∧
      ∀ m, 0 < m → (computeNormalizedEntropy (counts.mapValues (m * ·))
          (counts.mapValues (m * ·)).values.sum : ℝ) =
        computeNormalizedEntropy counts counts.values.sum := by
  refine ⟨?_, ?_, computeNormalizedEntropy_eq_one_iff positive,
    fun m some => computeNormalizedEntropy_mapValues counts some⟩
  · by_cases few : counts.size ≤ 1
    · rw [computeNormalizedEntropy_of_size_le counts _ few]
      exact ⟨le_rfl, zero_le_one⟩
    · have two : 2 ≤ counts.size := by omega
      exact ⟨(computeNormalizedEntropy_pos positive two).le, computeNormalizedEntropy_le_one positive two⟩
  · constructor
    · intro zero
      by_contra many
      have two : 2 ≤ counts.size := by omega
      exact (computeNormalizedEntropy_pos positive two).ne' zero
    · exact computeNormalizedEntropy_of_size_le counts _

/-- Two sources with three packets each, and the same ten times over. -/
def evenPair : Dict Nat Nat := (Dict.empty.set 1 3).set 2 3

theorem evenPair_laws :
    (computeNormalizedEntropy evenPair 6 : ℝ) = 1 ∧
      (computeNormalizedEntropy (evenPair.mapValues (10 * ·)) 60 : ℝ) = 1 := by
  have laws := entropy_laws evenPair (by decide)
  have even := (laws.2.2.1 (by decide)).mpr (by decide)
  exact ⟨even, (laws.2.2.2 10 (by decide)).trans even⟩

end Flod.Stage1
