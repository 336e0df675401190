import Flod.Lib.Moments
import Flod.Stage1.Window

/-! What the running mean and variance are. Below the cap the accumulator stands for the
samples it has seen, in any order and in any batches. Past the cap it is no statistic of
them any more, and stays within their bounds all the same. -/

namespace Flod.Stage1
open Flod.Lib

variable {F : Type} [Arith F]

namespace WelfordAccumulator

variable {w mid after : WelfordAccumulator F}

/-- One accumulator is another that has seen so many more samples, of this total and this
total of squares. -/
structure Gains (w after : WelfordAccumulator F) (count : Nat) (sum squares : F) : Prop where
  n : after.n = w.n + count
  maxN : after.maxN = w.maxN
  total : (after.n : F) * after.mean = (w.n : F) * w.mean + sum
  totalSquares : after.m2 + (after.n : F) * after.mean ^ 2 = w.m2 + (w.n : F) * w.mean ^ 2 + squares

theorem Gains.refl (w : WelfordAccumulator F) : Gains w w 0 0 0 := by
  constructor
  · rfl
  · rfl
  · ring
  · ring

theorem Gains.trans {count count' : Nat} {sum sum' squares squares' : F}
    (first : Gains w mid count sum squares) (second : Gains mid after count' sum' squares') :
    Gains w after (count + count') (sum + sum') (squares + squares') where
  n := by rw [second.n, first.n, Nat.add_assoc]
  maxN := second.maxN.trans first.maxN
  total := by rw [second.total, first.total, add_assoc]
  totalSquares := by rw [second.totalSquares, first.totalSquares, add_assoc]

/-- The totals determine the accumulator, once it has seen anything. -/
theorem Gains.unique {after' : WelfordAccumulator F} {count : Nat} {sum squares : F}
    (gains : Gains w after count sum squares) (gains' : Gains w after' count sum squares)
    (some : 0 < w.n + count) : after = after' := by
  have counts : after.n = after'.n := gains.n.trans gains'.n.symm
  have positive : (after.n : F) ≠ 0 := by
    rw [gains.n]
    exact_mod_cast some.ne'
  have means : after.mean = after'.mean := by
    apply mul_left_cancel₀ positive
    rw [gains.total, counts, gains'.total]
  have spreads : after.m2 = after'.m2 := by
    have squares := gains.totalSquares.trans gains'.totalSquares.symm
    rw [counts, means] at squares
    exact add_right_cancel squares
  cases after
  cases after'
  simp only [mk.injEq]
  exact ⟨counts, means, spreads, gains.maxN.trans gains'.maxN.symm⟩

theorem update_gains (x : F) (room : w.n < w.maxN) : Gains w (w.update x) 1 x (x ^ 2) := by
  have next : min (w.n + 1) w.maxN = w.n + 1 := by omega
  have below : ¬ w.maxN ≤ w.n := by omega
  have positive : (w.n : F) + 1 ≠ 0 := by exact_mod_cast Nat.succ_ne_zero w.n
  constructor
  · exact next
  · rfl
  · simp only [update, next, Nat.cast_add, Nat.cast_one]
    field_simp
    ring
  · simp only [update, next, below, if_false, Nat.cast_add, Nat.cast_one]
    field_simp
    ring

theorem updateBatch_gains (x : F) (count : Nat) (room : w.n + count ≤ w.maxN) :
    Gains w (w.updateBatch x count) count ((count : F) * x) ((count : F) * x ^ 2) := by
  by_cases none : count = 0
  · subst none
    simpa [updateBatch] using Gains.refl w
  · have next : min (w.n + count) w.maxN = w.n + count := by omega
    have absorbed : w.n + count - w.n = count := by omega
    have positive : (w.n : F) + (count : F) ≠ 0 := by exact_mod_cast (by omega : w.n + count ≠ 0)
    simp only [updateBatch, none, if_false, next, absorbed]
    constructor
    · rfl
    · rfl
    · simp only [Nat.cast_add]
      field_simp
      ring
    · simp only [Nat.cast_add]
      field_simp
      ring

theorem foldl_update_gains (samples : List F) (room : w.n + samples.length ≤ w.maxN) :
    Gains w (samples.foldl update w) samples.length samples.sum (samples.map (· ^ 2)).sum := by
  induction samples generalizing w with
  | nil => exact Gains.refl w
  | cons x rest ih =>
    rw [List.length_cons] at room
    have first := update_gains x (by omega : w.n < w.maxN)
    have later : Gains (w.update x) (rest.foldl update (w.update x)) rest.length rest.sum
        (rest.map (· ^ 2)).sum := by
      apply ih
      rw [first.n, first.maxN]
      omega
    have both := first.trans later
    rw [Nat.add_comm 1] at both
    exact both

theorem foldl_updateBatch_gains (batches : List (F × Nat))
    (room : w.n + (batches.map Prod.snd).sum ≤ w.maxN) :
    Gains w (batches.foldl (fun acc b => acc.updateBatch b.1 b.2) w) (batches.map Prod.snd).sum
      (batches.map (fun b => (b.2 : F) * b.1)).sum (batches.map (fun b => (b.2 : F) * b.1 ^ 2)).sum := by
  induction batches generalizing w with
  | nil => exact Gains.refl w
  | cons batch rest ih =>
    simp only [List.map_cons, List.sum_cons] at room ⊢
    have first := updateBatch_gains batch.1 batch.2 (by omega : w.n + batch.2 ≤ w.maxN)
    apply first.trans
    apply ih
    rw [first.n, first.maxN]
    omega

end WelfordAccumulator

open WelfordAccumulator

/-- A new accumulator fed samples one by one. -/
def fed (cap : Nat) (samples : List F) : WelfordAccumulator F := samples.foldl update (new cap)

/-- Up to the cap, what the accumulator holds are the statistics of the samples, whatever
their order. -/
theorem fed_eq_statistics (cap : Nat) (samples : List F) (nonempty : 1 ≤ samples.length)
    (room : samples.length ≤ cap) :
    (fed cap samples).n = samples.length ∧
      (fed cap samples).mean = arithmeticMean samples ∧
      (fed cap samples).m2 = squaredDeviations samples ∧
      (2 ≤ samples.length → (fed cap samples).variance = some (sampleVariance samples)) ∧
      ∀ order : List F, order.Perm samples → fed cap order = fed cap samples := by
  have gains : Gains (new cap) (fed cap samples) samples.length samples.sum (samples.map (· ^ 2)).sum :=
    foldl_update_gains samples (by simpa [new] using room)
  have counted : (fed cap samples).n = samples.length := by simpa [new] using gains.n
  have positive : (samples.length : F) ≠ 0 := by exact_mod_cast (by omega : samples.length ≠ 0)
  have mean : (fed cap samples).mean = arithmeticMean samples := by
    have total := gains.total
    simp only [counted, new, Nat.cast_zero, zero_mul, zero_add] at total
    rw [arithmeticMean, ← total, mul_div_cancel_left₀ _ positive]
  have spread : (fed cap samples).m2 = squaredDeviations samples := by
    have squares := gains.totalSquares
    simp only [counted, mean, new, Nat.cast_zero, zero_mul, zero_add, add_zero] at squares
    rw [squaredDeviations_eq (List.ne_nil_of_length_pos nonempty), ← squares]
    ring
  refine ⟨counted, mean, spread, ?_, ?_⟩
  · intro two
    have nonneg : ¬ sampleVariance samples < 0 := by
      apply not_lt.mpr
      apply div_nonneg
      · exact List.sum_nonneg (by simpa using fun x _ => sq_nonneg (x - arithmeticMean samples))
      · rw [sub_nonneg]
        exact_mod_cast nonempty
    have divides : (fed cap samples).m2 / (((fed cap samples).n - 1 : Nat) : F) = sampleVariance samples := by
      rw [spread, counted, Nat.cast_sub nonempty, Nat.cast_one, sampleVariance]
    have enough : ¬ (fed cap samples).n < 2 := by omega
    simp only [variance, if_neg enough, divides, if_neg nonneg]
  · intro order permuted
    have other := foldl_update_gains (w := new cap) order (by simpa [new, permuted.length_eq] using room)
    rw [permuted.length_eq, permuted.sum_eq, (permuted.map (· ^ 2)).sum_eq] at other
    exact other.unique gains (by simp only [new]; omega)

/-- The four samples of the source's own comment. -/
theorem fed_golden_vector :
    (fed 500 [(4 : ℚ), 7, 13, 16]).mean = 10 ∧ (fed 500 [(4 : ℚ), 7, 13, 16]).variance = some 30 := by
  obtain ⟨-, mean, -, spread, -⟩ := fed_eq_statistics 500 [(4 : ℚ), 7, 13, 16] (by decide) (by decide)
  rw [mean, spread (by decide)]
  norm_num [arithmeticMean, sampleVariance, squaredDeviations]

/-! Batches. -/

/-- The samples a list of batches stands for. -/
def individually (batches : List (F × Nat)) : List F :=
  batches.flatMap (fun b => List.replicate b.2 b.1)

theorem individually_sums (batches : List (F × Nat)) :
    (individually batches).length = (batches.map Prod.snd).sum ∧
      (individually batches).sum = (batches.map (fun b => (b.2 : F) * b.1)).sum ∧
      ((individually batches).map (· ^ 2)).sum = (batches.map (fun b => (b.2 : F) * b.1 ^ 2)).sum := by
  induction batches with
  | nil => exact ⟨rfl, rfl, rfl⟩
  | cons batch rest ih =>
    obtain ⟨count, total, squares⟩ := ih
    simp only [individually, List.flatMap_cons, List.map_cons, List.sum_cons] at count total squares ⊢
    refine ⟨?_, ?_, ?_⟩
    · rw [List.length_append, List.length_replicate, count]
    · rw [List.sum_append, List.sum_replicate, nsmul_eq_mul, total]
    · rw [List.map_append, List.sum_append, List.map_replicate, List.sum_replicate, nsmul_eq_mul, squares]

/-- With room below the cap, the accumulator does not remember how its samples were batched. -/
theorem foldl_updateBatch_eq {w : WelfordAccumulator F} {batches : List (F × Nat)}
    (room : (batches.map Prod.snd).sum ≤ w.maxN - w.n) {samples : List F} (same : samples.Perm (individually batches)) :
    batches.foldl (fun acc b => acc.updateBatch b.1 b.2) w = samples.foldl update w := by
  obtain ⟨count, total, squares⟩ := individually_sums batches
  by_cases none : (batches.map Prod.snd).sum = 0
  · have empty : samples = [] := by
      apply List.length_eq_zero_iff.mp
      rw [same.length_eq, count, none]
    have idle : ∀ b ∈ batches, b.2 = 0 := by
      intro b member
      exact List.sum_eq_zero_iff.mp none b.2 (List.mem_map_of_mem member)
    subst empty
    clear same count total squares none room
    induction batches with
    | nil => rfl
    | cons b rest ih =>
      have nothing : w.updateBatch b.1 b.2 = w := by simp [updateBatch, idle b List.mem_cons_self]
      rw [List.foldl_cons, nothing]
      exact ih fun b' member => idle b' (List.mem_cons_of_mem _ member)
  · have batched := foldl_updateBatch_gains (w := w) batches (by omega)
    have single := foldl_update_gains (w := w) samples (by rw [same.length_eq, count]; omega)
    rw [same.length_eq, same.sum_eq, (same.map _).sum_eq, count, total, squares] at single
    exact batched.unique single (by omega)

/-- With room below the cap, batches in any order leave the accumulator that the same
samples leave one at a time, in any order. -/
theorem batches_eq_updates (w : WelfordAccumulator F) (batches : List (F × Nat))
    (room : (batches.map Prod.snd).sum ≤ w.maxN - w.n) (order : List (F × Nat))
    (reordered : order.Perm batches) (samples : List F) (same : samples.Perm (individually batches)) :
    order.foldl (fun acc b => acc.updateBatch b.1 b.2) w = samples.foldl update w := by
  have inOrder : (order.map Prod.snd).sum = (batches.map Prod.snd).sum := (reordered.map _).sum_eq
  exact foldl_updateBatch_eq (inOrder ▸ room) (same.trans (reordered.symm.flatMap_right _))

/-- Two batches, merged in the other order, against four samples. -/
theorem two_batches_merged :
    ([(13, 1), (4, 3)] : List (ℚ × Nat)).foldl (fun acc b => acc.updateBatch b.1 b.2) (new 500) =
      ([4, 13, 4, 4] : List ℚ).foldl update (new 500) := by
  apply batches_eq_updates (new 500) [(4, 3), (13, 1)]
  · decide
  · exact List.Perm.swap _ _ _
  · decide

/-! Past the cap. -/

/-- What happens to an accumulator: it is fed a sample, or its mean is put back to a
reference. -/
inductive Lesson (F : Type) where
  | sample (x : F)
  | reverted (reference : F)

def Lesson.value : Lesson F → F
  | .sample x => x
  | .reverted reference => reference

def WelfordAccumulator.learn (w : WelfordAccumulator F) : Lesson F → WelfordAccumulator F
  | .sample x => w.update x
  | .reverted reference => { w with mean := reference }

/-- The two things a clean window does to the rate baseline are such lessons. -/
theorem updateBaseline_learns (cfg : AnalysisConfig F) (ts : TargetState F) (stats : WindowStats F)
    (vd : Verdict F) : ∃ lessons : List (Lesson F),
      (updateBaseline cfg ts stats vd).welfordRate = lessons.foldl learn ts.welfordRate ∧
        ∀ lesson ∈ lessons, lesson = .sample stats.r ∨
          (updateBaseline cfg ts stats vd).peacetimeRateRef = some lesson.value := by
  unfold updateBaseline
  dsimp only
  split <;> split
  · exact ⟨[.sample stats.r, .reverted _], rfl, by simp [Lesson.value]⟩
  · exact ⟨[.sample stats.r], rfl, by simp⟩
  · exact ⟨[.reverted _], rfl, by simp [Lesson.value]⟩
  · exact ⟨[], rfl, by simp⟩

/-- Nothing but the mean and the spread of samples between two bounds. -/
structure Between (a b : F) (w : WelfordAccumulator F) : Prop where
  cap : 1 ≤ w.maxN
  count : w.n ≤ w.maxN
  untaught : w.n = 0 → w.m2 = 0
  low : 1 ≤ w.n → a ≤ w.mean
  high : 1 ≤ w.n → w.mean ≤ b
  nonneg : 0 ≤ w.m2
  spread : 1 ≤ w.n → w.m2 ≤ ((w.n : F) - 1) * (b - a) ^ 2

section Between

variable {a b x : F} {w : WelfordAccumulator F}

theorem sq_distance_le {m : F} (low : a ≤ m) (high : m ≤ b) (low' : a ≤ x) (high' : x ≤ b) :
    (x - m) ^ 2 ≤ (b - a) ^ 2 := by
  apply sq_le_sq'
  · linarith
  · linarith

theorem deltas_eq (m x k : F) : (x - m) * (x - (m + (x - m) / k)) = (x - m) ^ 2 * (1 - 1 / k) := by
  ring

theorem one_sub_inv_nonneg {k : Nat} (some : 1 ≤ k) : (0 : F) ≤ 1 - 1 / (k : F) := by
  have whole : (1 : F) ≤ k := by exact_mod_cast some
  rw [sub_nonneg]
  exact div_le_one_of_le₀ whole (zero_le_one.trans whole)

theorem update_m2_of_room (room : w.n < w.maxN) :
    (w.update x).m2 = w.m2 + (x - w.mean) ^ 2 * (1 - 1 / ((w.n + 1 : Nat) : F)) := by
  have next : min (w.n + 1) w.maxN = w.n + 1 := by omega
  simp only [update, not_le.mpr room, if_false, deltas_eq, next]

/-- At the cap the old spread decays by the share the new distance is taken with. -/
theorem update_m2_of_full (full : w.maxN ≤ w.n) :
    (w.update x).m2 = (w.m2 + (x - w.mean) ^ 2) * (1 - 1 / (w.maxN : F)) := by
  have same : min (w.n + 1) w.maxN = w.maxN := by omega
  simp only [update, full, if_true, deltas_eq, same]
  ring

theorem Between.update_first (between : Between a b w) (none : w.n = 0) (low : a ≤ x) (high : x ≤ b) :
    Between a b (w.update x) := by
  have cap := between.cap
  have one : (w.update x).n = 1 := by
    change min (w.n + 1) w.maxN = 1
    omega
  have mean : (w.update x).mean = x := by
    change w.mean + (x - w.mean) / (((w.update x).n : Nat) : F) = x
    rw [one]
    ring
  have flat : (w.update x).m2 = 0 := by
    rw [update_m2_of_room (by omega), none, between.untaught none]
    simp
  refine ⟨cap, ?_, ?_, ?_, ?_, ?_, ?_⟩
  · rw [one]
    exact cap
  · rw [one]
    omega
  · intro _
    rw [mean]
    exact low
  · intro _
    rw [mean]
    exact high
  · rw [flat]
  · intro _
    rw [flat, one]
    simp

theorem Between.update_nonneg (between : Between a b w) : 0 ≤ (w.update x).m2 := by
  by_cases full : w.maxN ≤ w.n
  · rw [update_m2_of_full full]
    exact mul_nonneg (add_nonneg between.nonneg (sq_nonneg _)) (one_sub_inv_nonneg between.cap)
  · rw [update_m2_of_room (not_le.mp full)]
    exact add_nonneg between.nonneg (mul_nonneg (sq_nonneg _) (one_sub_inv_nonneg (by omega)))

theorem Between.update_spread (between : Between a b w) (some : 1 ≤ w.n) (low : a ≤ x) (high : x ≤ b) :
    (w.update x).m2 ≤ (((w.update x).n : F) - 1) * (b - a) ^ 2 := by
  have cap := between.cap
  have count := between.count
  have counted : (w.update x).n = min (w.n + 1) w.maxN := rfl
  have near : (x - w.mean) ^ 2 ≤ (b - a) ^ 2 :=
    sq_distance_le (between.low some) (between.high some) low high
  have spread := between.spread some
  by_cases full : w.maxN ≤ w.n
  · have same : (w.update x).n = w.maxN := by omega
    have capped : w.n = w.maxN := by omega
    have positive : (w.maxN : F) ≠ 0 := by exact_mod_cast (by omega : w.maxN ≠ 0)
    rw [capped] at spread
    rw [update_m2_of_full full, same]
    calc (w.m2 + (x - w.mean) ^ 2) * (1 - 1 / (w.maxN : F))
        ≤ (((w.maxN : F) - 1) * (b - a) ^ 2 + (b - a) ^ 2) * (1 - 1 / (w.maxN : F)) :=
          mul_le_mul_of_nonneg_right (add_le_add spread near) (one_sub_inv_nonneg cap)
      _ = ((w.maxN : F) - 1) * (b - a) ^ 2 := by
          field_simp
          ring
  · have next : (w.update x).n = w.n + 1 := by omega
    have part : 1 - 1 / ((w.n + 1 : Nat) : F) ≤ 1 := by
      rw [sub_le_self_iff]
      positivity
    rw [update_m2_of_room (not_le.mp full), next]
    calc w.m2 + (x - w.mean) ^ 2 * (1 - 1 / ((w.n + 1 : Nat) : F))
        ≤ ((w.n : F) - 1) * (b - a) ^ 2 + (b - a) ^ 2 * 1 :=
          add_le_add spread (mul_le_mul near part (one_sub_inv_nonneg (by omega)) (sq_nonneg _))
      _ = (((w.n + 1 : Nat) : F) - 1) * (b - a) ^ 2 := by
          push_cast
          ring

theorem Between.update_later (between : Between a b w) (some : 1 ≤ w.n) (low : a ≤ x) (high : x ≤ b) :
    Between a b (w.update x) := by
  have cap := between.cap
  have counted : (w.update x).n = min (w.n + 1) w.maxN := rfl
  refine ⟨cap, min_le_right _ _, ?_, ?_, ?_, between.update_nonneg, ?_⟩
  · intro none
    omega
  · intro _
    exact le_moved _ (between.low some) low
  · intro _
    exact moved_le _ (between.high some) high
  · intro _
    exact between.update_spread some low high

theorem Between.learn {lesson : Lesson F} (between : Between a b w) (low : a ≤ lesson.value)
    (high : lesson.value ≤ b) : Between a b (w.learn lesson) := by
  cases lesson with
  | sample x =>
    by_cases none : w.n = 0
    · exact between.update_first none low high
    · exact between.update_later (by omega) low high
  | reverted reference =>
    exact ⟨between.cap, between.count, between.untaught, fun _ => low, fun _ => high, between.nonneg,
      between.spread⟩

theorem Between.foldl {lessons : List (Lesson F)} (between : Between a b w)
    (inside : ∀ lesson ∈ lessons, a ≤ lesson.value ∧ lesson.value ≤ b) :
    Between a b (lessons.foldl WelfordAccumulator.learn w) := by
  induction lessons generalizing w with
  | nil => exact between
  | cons lesson rest ih =>
    obtain ⟨low, high⟩ := inside lesson List.mem_cons_self
    exact ih (between.learn low high) fun other member => inside other (List.mem_cons_of_mem _ member)

theorem Between.variance_le (between : Between a b w) (two : 2 ≤ w.n) :
    ∃ v, w.variance = some v ∧ v ≤ (b - a) ^ 2 := by
  have positive : (0 : F) < ((w.n - 1 : Nat) : F) := by exact_mod_cast (by omega : 0 < w.n - 1)
  have enough : ¬ w.n < 2 := by omega
  have nonneg : ¬ w.m2 / ((w.n - 1 : Nat) : F) < 0 :=
    not_lt.mpr (div_nonneg between.nonneg positive.le)
  refine ⟨w.m2 / ((w.n - 1 : Nat) : F), ?_, ?_⟩
  · simp only [WelfordAccumulator.variance, if_neg enough, if_neg nonneg]
  · rw [div_le_iff₀ positive, Nat.cast_sub (by omega), Nat.cast_one, mul_comm]
    exact between.spread (by omega)

end Between

theorem learn_counted {w : WelfordAccumulator F} (cap : 1 ≤ w.maxN) (lessons : List (Lesson F))
    (taught : 1 ≤ w.n ∨ ∃ x, Lesson.sample x ∈ lessons) : 1 ≤ (lessons.foldl learn w).n := by
  induction lessons generalizing w with
  | nil => simpa using taught
  | cons lesson rest ih =>
    cases lesson with
    | sample x =>
      have counted : (w.update x).n = min (w.n + 1) w.maxN := rfl
      exact ih (w := w.update x) cap (Or.inl (by omega))
    | reverted reference =>
      apply ih (w := { w with mean := reference }) cap
      simpa using taught

/-- Samples between two bounds, and means put back to values between them, keep the mean
and the spread in bounds however long they go on. -/
theorem learned_between (cap : Nat) (room : 1 ≤ cap) (a b : F) (lessons : List (Lesson F))
    (inside : ∀ lesson ∈ lessons, a ≤ lesson.value ∧ lesson.value ≤ b)
    (taught : ∃ x, Lesson.sample x ∈ lessons) (w : WelfordAccumulator F)
    (learned : w = lessons.foldl learn (new cap)) :
    a ≤ w.mean ∧ w.mean ≤ b ∧ 0 ≤ w.m2 ∧ w.m2 ≤ ((w.n : F) - 1) * (b - a) ^ 2 ∧
      (2 ≤ w.n → ∃ v, w.variance = some v ∧ v ≤ (b - a) ^ 2) := by
  subst learned
  have start : Between a b (new cap) := ⟨room, Nat.zero_le _, fun _ => rfl, nofun, nofun, le_rfl, nofun⟩
  have between := start.foldl inside
  have counted := learn_counted (w := new cap) room lessons (Or.inr taught)
  exact ⟨between.low counted, between.high counted, between.nonneg, between.spread counted,
    between.variance_le⟩

/-- Two samples fill the accumulator, two more and a reversion come after. -/
def crowdedLessons : List (Lesson ℚ) := [.sample 4, .sample 13, .sample 13, .reverted 5, .sample 7]

theorem crowdedLessons_between :
    (crowdedLessons.foldl learn (new 2)).n = 2 ∧ 4 ≤ (crowdedLessons.foldl learn (new 2)).mean ∧
      (crowdedLessons.foldl learn (new 2)).mean ≤ 13 ∧
      ∃ v, (crowdedLessons.foldl learn (new 2)).variance = some v ∧ v ≤ (13 - 4) ^ 2 := by
  have inside : ∀ lesson ∈ crowdedLessons, (4 : ℚ) ≤ lesson.value ∧ lesson.value ≤ 13 := by
    simp only [crowdedLessons, List.forall_mem_cons, Lesson.value]
    norm_num
  obtain ⟨low, high, -, -, spread⟩ := learned_between 2 (by decide) 4 13 crowdedLessons inside
    ⟨4, List.mem_cons_self⟩ _ rfl
  exact ⟨rfl, low, high, spread (by decide)⟩

end Flod.Stage1
