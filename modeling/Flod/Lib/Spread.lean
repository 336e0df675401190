import Flod.Lib.Moments
import Mathlib.Algebra.Order.BigOperators.Group.List
import Mathlib.Algebra.Order.Field.Basic
import Mathlib.Data.List.GetD
import Mathlib.Data.List.Sort
import Mathlib.Tactic.Linarith
import Mathlib.Tactic.Positivity

/-! How far a list of samples spreads. An order statistic is known by how many samples lie at or
below it; with that the median, the median distance from it and the squared distances from the mean
are bounded by the range the samples lie in. -/

namespace Flod.Lib

section Order

variable {F : Type} [LinearOrder F]

def ascending (xs : List F) : List F := xs.insertionSort (· ≤ ·)

theorem length_ascending (xs : List F) : (ascending xs).length = xs.length := List.length_insertionSort _ xs

theorem ascending_pairwise (xs : List F) : (ascending xs).Pairwise (· ≤ ·) := List.pairwise_insertionSort _ xs

/-- In an ascending list a property that smaller elements share holds of a beginning. -/
theorem getElem_of_downward {p : F → Bool} (down : ∀ a b, a ≤ b → p b = true → p a = true) :
    ∀ {s : List F}, s.Pairwise (· ≤ ·) → ∀ {i : Nat} (bound : i < s.length), p s[i] = true ↔ i < s.countP p
  | [], _, i, bound => absurd bound (Nat.not_lt_zero i)
  | a :: s, sorted, i, bound => by
    obtain ⟨first, rest⟩ := List.pairwise_cons.mp sorted
    by_cases here : p a = true
    · rw [List.countP_cons_of_pos here]
      cases i with
      | zero => exact iff_of_true here (Nat.succ_pos _)
      | succ i =>
        have later := getElem_of_downward down rest (Nat.lt_of_succ_lt_succ bound)
        exact later.trans Nat.succ_lt_succ_iff.symm
    · have none_later : s.countP p = 0 := by
        rw [List.countP_eq_zero]
        intro b mem holds
        exact here (down a b (first b mem) holds)
      rw [List.countP_cons_of_neg here, none_later]
      refine iff_of_false ?_ (Nat.not_lt_zero i)
      intro holds
      cases i with
      | zero => exact here holds
      | succ i => exact here (down a _ (first _ (List.getElem_mem _)) holds)

variable [Zero F]

/-- The element at a place of the ascending list. -/
def ranked (xs : List F) (i : Nat) : F := (ascending xs).getD i 0

variable {xs : List F}

theorem ranked_of_downward {p : F → Bool} (down : ∀ a b, a ≤ b → p b = true → p a = true) {i : Nat}
    (bound : i < xs.length) : p (ranked xs i) = true ↔ i < xs.countP p := by
  have bound' : i < (ascending xs).length := by rwa [length_ascending]
  have counts : (ascending xs).countP p = xs.countP p := (List.perm_insertionSort _ xs).countP_eq p
  rw [ranked, List.getD_eq_getElem _ _ bound', getElem_of_downward down (ascending_pairwise xs) bound', counts]

theorem ranked_le_iff {i : Nat} (bound : i < xs.length) (c : F) :
    ranked xs i ≤ c ↔ i < xs.countP (fun x => decide (x ≤ c)) := by
  rw [← ranked_of_downward _ bound, decide_eq_true_eq]
  intro a b below holds
  exact decide_eq_true (below.trans (of_decide_eq_true holds))

theorem le_ranked_iff {i : Nat} (bound : i < xs.length) (c : F) :
    c ≤ ranked xs i ↔ xs.countP (fun x => decide (x < c)) ≤ i := by
  have less : ranked xs i < c ↔ i < xs.countP (fun x => decide (x < c)) := by
    rw [← ranked_of_downward _ bound, decide_eq_true_eq]
    intro a b below holds
    exact decide_eq_true (below.trans_lt (of_decide_eq_true holds))
  rw [← not_lt, less, not_lt]

theorem ranked_mem {i : Nat} (bound : i < xs.length) : ranked xs i ∈ xs := by
  have bound' : i < (ascending xs).length := by rwa [length_ascending]
  rw [ranked, List.getD_eq_getElem _ _ bound']
  exact (List.perm_insertionSort _ xs).mem_iff.mp (List.getElem_mem bound')

theorem ranked_mono {i j : Nat} (order : i ≤ j) (bound : j < xs.length) : ranked xs i ≤ ranked xs j := by
  rw [ranked_le_iff (order.trans_lt bound)]
  exact order.trans_lt ((ranked_le_iff bound _).mp le_rfl)

end Order

section Median

variable {F : Type} [Field F] [LinearOrder F] [IsStrictOrderedRing F] {xs : List F} {a b : F}

/-- The middle of the samples, or the mean of the two in the middle. -/
def median (xs : List F) : F :=
  if xs.length % 2 = 1 then ranked xs (xs.length / 2)
  else (ranked xs (xs.length / 2 - 1) + ranked xs (xs.length / 2)) / 2.0

/-- In either case the mean of two places, which are one where there is a middle. -/
theorem median_eq (some_sample : xs ≠ []) :
    median xs + median xs = ranked xs ((xs.length - 1) / 2) + ranked xs (xs.length / 2) := by
  have count := List.length_pos_of_ne_nil some_sample
  unfold median
  split
  · rename_i odd
    have same : (xs.length - 1) / 2 = xs.length / 2 := by omega
    rw [same]
  · rename_i even
    have lower : (xs.length - 1) / 2 = xs.length / 2 - 1 := by omega
    have two : (2.0 : F) = 2 := by norm_num
    rw [lower, two]
    ring

theorem median_le {c : F} (some_sample : xs ≠ []) (upper : ranked xs (xs.length / 2) ≤ c) : median xs ≤ c := by
  have count := List.length_pos_of_ne_nil some_sample
  have lower := (ranked_mono (by omega : (xs.length - 1) / 2 ≤ xs.length / 2) (by omega)).trans upper
  linarith [median_eq some_sample]

/-- The median of the distances from the median. -/
def medianDeviation (xs : List F) : F := median (xs.map (fun x => |x - median xs|))

theorem medianDeviation_le (some_sample : xs ≠ []) (inside : ∀ x ∈ xs, a ≤ x ∧ x ≤ b) :
    medianDeviation xs ≤ (b - a) / 2 := by
  have count := List.length_pos_of_ne_nil some_sample
  have low : (xs.length - 1) / 2 < xs.length := by omega
  have high : xs.length / 2 < xs.length := by omega
  have middle := median_eq some_sample
  have order := ranked_mono (by omega : (xs.length - 1) / 2 ≤ xs.length / 2) high
  have lowInside := inside _ (ranked_mem low)
  have highInside := inside _ (ranked_mem high)
  apply median_le (by simpa using some_sample)
  rw [List.length_map, ranked_le_iff (by rwa [List.length_map]), List.countP_map]
  -- the median lies in one half of the range; the samples on that side of it, and as many as to
  -- the other middle place, are close to it
  by_cases side : median xs ≤ (a + b) / 2
  · have below : xs.length / 2 < xs.countP (fun x => decide (x ≤ ranked xs (xs.length / 2))) :=
      (ranked_le_iff high _).mp le_rfl
    refine below.trans_le (List.countP_mono_left ?_)
    intro x mem holds
    have upper := of_decide_eq_true holds
    have lower := (inside x mem).1
    rw [Function.comp_apply, decide_eq_true_eq, abs_le]
    constructor
    · linarith
    · linarith
  · have above : xs.countP (fun x => decide (x < ranked xs ((xs.length - 1) / 2))) ≤ (xs.length - 1) / 2 :=
      (le_ranked_iff low _).mp le_rfl
    have split := List.length_eq_countP_add_countP (fun x => decide (x < ranked xs ((xs.length - 1) / 2))) (l := xs)
    have enough : xs.length / 2 < xs.countP (fun x => decide ¬ decide (x < ranked xs ((xs.length - 1) / 2)) = true) := by
      omega
    refine enough.trans_le (List.countP_mono_left ?_)
    intro x mem holds
    have lower : ranked xs ((xs.length - 1) / 2) ≤ x := by simpa using holds
    have upper := (inside x mem).2
    have beyond := not_le.mp side
    rw [Function.comp_apply, decide_eq_true_eq, abs_le]
    constructor
    · linarith
    · linarith

theorem arithmeticMean_le (some_sample : xs ≠ []) (inside : ∀ x ∈ xs, x ≤ b) : arithmeticMean xs ≤ b := by
  have count : (0 : F) < xs.length := Nat.cast_pos.mpr (List.length_pos_of_ne_nil some_sample)
  rw [arithmeticMean, div_le_iff₀ count]
  have total := List.sum_le_card_nsmul xs b inside
  rwa [nsmul_eq_mul, mul_comm] at total

/-- Samples between 0 and 1 are no farther from their mean than if half of them were at either end. -/
theorem squaredDeviations_le (some_sample : xs ≠ []) (inside : ∀ x ∈ xs, 0 ≤ x ∧ x ≤ 1) :
    squaredDeviations xs ≤ (xs.length : F) / 4 := by
  have count : (0 : F) < xs.length := Nat.cast_pos.mpr (List.length_pos_of_ne_nil some_sample)
  have total : xs.sum = (xs.length : F) * arithmeticMean xs := by
    rw [arithmeticMean]
    field_simp
  have squares : (xs.map (· ^ 2)).sum ≤ xs.sum := by
    have each := List.sum_le_sum (l := xs) (f := fun x => x ^ 2) (g := fun x => x) (by
      intro x mem
      obtain ⟨low, high⟩ := inside x mem
      exact pow_le_of_le_one low high two_ne_zero)
    rwa [List.map_id'] at each
  rw [squaredDeviations_eq some_sample]
  calc (xs.map (· ^ 2)).sum - (xs.length : F) * arithmeticMean xs ^ 2
      ≤ (xs.length : F) * arithmeticMean xs - (xs.length : F) * arithmeticMean xs ^ 2 := by
        linarith
    _ = (xs.length : F) / 4 - (xs.length : F) * (arithmeticMean xs - 1 / 2) ^ 2 := by ring
    _ ≤ (xs.length : F) / 4 := by
        have square := mul_nonneg count.le (sq_nonneg (arithmeticMean xs - 1 / 2))
        linarith

end Median

end Flod.Lib
