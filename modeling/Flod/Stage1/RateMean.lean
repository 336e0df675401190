import Flod.Stage1.Restarts
import Flod.Stage1.Snapshot
import Mathlib.Analysis.Convex.Basic

/-! Bounds on the learned mean rate. Reversion keeps it near the peacetime reference in every
state, restarts included. The ceiling is looked at before a clean window is learned and not
again, so that it holds only as long as no window that teaches the baseline is above it. -/

namespace Flod.Stage1
open Flod.Lib Flod.Net

variable {F : Type} [Arith F] {cfg : AnalysisConfig F} {ts after : TargetState F}

/-- The peacetime reference after a clean window, seeded from the mean it guards. -/
def nextReference (cfg : AnalysisConfig F) (reference : Option F) (mean r : F) : F :=
  cfg.peacetimeEwmaWeight * r + (1 - cfg.peacetimeEwmaWeight) * reference.getD mean

/-- The accumulator with a drifted mean put back to the reference. -/
def reverted (learned : WelfordAccumulator F) (reference : F) : WelfordAccumulator F :=
  if baselineHasDrifted learned.mean reference then { learned with mean := reference } else learned

/-- How a clean window moves the rate baseline. Whether it is learned depends on the mean before it. -/
def LearnsRate (cfg : AnalysisConfig F) (ts after : TargetState F) (r : F) : Prop :=
  ∃ learned, (learned = ts.welfordRate ∨ ts.welfordRate.mean < cfg.rateMeanCap ∧ learned = ts.welfordRate.update r) ∧
    after.peacetimeRateRef = some (nextReference cfg ts.peacetimeRateRef learned.mean r) ∧
    after.welfordRate = reverted learned (nextReference cfg ts.peacetimeRateRef learned.mean r)

theorem update_mean_mem {s : Set F} (convex : Convex F s) {w : WelfordAccumulator F} {x : F}
    (mean : w.mean ∈ s) (sample : x ∈ s) : (w.update x).mean ∈ s :=
  convex.ordConnected.uIcc_subset mean sample
    ⟨WelfordAccumulator.le_moved _ inf_le_left inf_le_right,
      WelfordAccumulator.moved_le _ le_sup_left le_sup_right⟩

theorem updateBaseline_learnsRate (cfg : AnalysisConfig F) (ts : TargetState F) (stats : WindowStats F)
    (vd : Verdict F) : LearnsRate cfg ts (updateBaseline cfg ts stats vd) stats.r := by
  unfold LearnsRate updateBaseline
  dsimp only
  split
  · next taken =>
    simp only [Bool.and_eq_true, decide_eq_true_eq] at taken
    exact ⟨_, Or.inr ⟨taken.2, rfl⟩, rfl, rfl⟩
  · exact ⟨_, Or.inl rfl, rfl, rfl⟩

/-- The rate baseline a close leaves: taught in warm-up, left alone by a refused window,
moved by a clean one. -/
theorem closeWindow_rate {reading : Reading F} {victim : IpAddr} {w : ClosedWindow F}
    (closing : closeWindow cfg reading victim ts = some (after, w)) :
    (ts.isWarm = false ∧ after.welfordRate = ts.welfordRate.update w.stats.r ∧
      after.peacetimeRateRef = ts.peacetimeRateRef) ∨
    (after.welfordRate = ts.welfordRate ∧ after.peacetimeRateRef = ts.peacetimeRateRef) ∨
    ∃ vd, ts.isWarm = true ∧ evaluate cfg ts w.stats = some vd ∧ vd.isCleanWindow = true ∧
      LearnsRate cfg ts after w.stats.r := by
  rcases closeWindow_cases closing with ⟨cold, -, rfl⟩ | ⟨vd, sentAt, warm, judged, -, rfl⟩
  · exact Or.inl ⟨cold, rfl, rfl⟩
  · cases clean : vd.isCleanWindow with
    | false =>
      simp only [absorb, clean]
      exact Or.inr (Or.inl ⟨rfl, rfl⟩)
    | true =>
      refine Or.inr (Or.inr ⟨vd, warm, judged, clean, ?_⟩)
      obtain ⟨learned, taught, reference, rate⟩ := updateBaseline_learnsRate cfg
        { (measure cfg reading victim ts).2 with consecutiveFrozenWindows := vd.consecutiveFrozenWindows } w.stats vd
      simp only [absorb, clean, if_true]
      exact ⟨learned, taught, reference, rate⟩

/-- A convex set that holds the mean, the reference and the rate of the window holds what the
window makes of them. -/
theorem LearnsRate.mem {s : Set F} {r : F} (convex : Convex F s) (tuned : cfg.Tuned)
    (slow : cfg.peacetimeEwmaWeight ≤ 1) (learns : LearnsRate cfg ts after r)
    (mean : ts.welfordRate.mean ∈ s) (earlier : ∀ x ∈ ts.peacetimeRateRef, x ∈ s) (sample : r ∈ s) :
    after.welfordRate.mean ∈ s ∧ ∀ x ∈ after.peacetimeRateRef, x ∈ s := by
  obtain ⟨learned, taught, reference, rate⟩ := learns
  have moved : learned.mean ∈ s := by
    rcases taught with rfl | ⟨-, rfl⟩
    · exact mean
    · exact update_mean_mem convex mean sample
  have base : ts.peacetimeRateRef.getD learned.mean ∈ s := by
    cases known : ts.peacetimeRateRef with
    | none => exact moved
    | some x => exact earlier x known
  have next : nextReference cfg ts.peacetimeRateRef learned.mean r ∈ s :=
    convex sample base tuned.peacetimeEwmaWeight.le (sub_nonneg.mpr slow) (add_sub_cancel _ _)
  constructor
  · rw [rate, reverted]
    split
    · exact next
    · exact moved
  · rw [reference]
    intro x member
    cases member
    exact next

section Drift

theorem not_drifted_self (x : F) : baselineHasDrifted x x = false := by
  simp [baselineHasDrifted, maxBaselineDrift]
  intro _
  norm_num

theorem reverted_close (learned : WelfordAccumulator F) (reference : F) :
    baselineHasDrifted (reverted learned reference).mean reference = false := by
  unfold reverted
  split
  · exact not_drifted_self reference
  · next near => simpa using near

theorem distance_of_not_drifted {mean reference : F} (near : baselineHasDrifted mean reference = false)
    (positive : 0 < reference) : |mean - reference| ≤ maxBaselineDrift * reference := by
  simp only [baselineHasDrifted, positive, decide_true, Bool.true_and, decide_eq_false_iff_not, not_lt] at near
  exact (div_le_iff₀ positive).mp near

/-- A target with a reference is past warm-up, and its mean is near the reference. -/
structure NearReference (ts : TargetState F) : Prop where
  capped : ts.Capped
  warm : ts.peacetimeRateRef.isSome → ts.isWarm = true
  near : ∀ reference ∈ ts.peacetimeRateRef, baselineHasDrifted ts.welfordRate.mean reference = false

/-- The same of a saved baseline. -/
structure SavedNearReference (b : PersistedBaseline F) : Prop where
  warm : b.peacetimeRateRef.isSome → b.isWarm
  near : ∀ reference ∈ b.peacetimeRateRef, baselineHasDrifted b.rateMean reference = false

omit [Arith F] in
theorem isWarm_iff (ts : TargetState F) :
    ts.isWarm = true ↔ warmupWindows ≤ ts.welfordRate.n ∧ warmupWindows ≤ ts.welfordEntropy.n := by
  simp [TargetState.isWarm, WelfordAccumulator.isWarm]

theorem NearReference.fresh {p : Option (PersistedBaseline F)} {now : Instant}
    (loaded : ∀ b ∈ p, SavedNearReference b) (created : TargetState.new cfg.ewmaAlpha p now = some ts) :
    NearReference ts := by
  obtain ⟨-, -, capped⟩ := TargetState.new_fresh created
  obtain ⟨ewma, -, rfl⟩ := Option.map_eq_some_iff.mp created
  cases p with
  | none =>
    refine ⟨capped, fun some => ?_, fun reference member => ?_⟩
    · cases some
    · cases member
  | some b =>
    obtain ⟨warm, near⟩ := loaded b rfl
    exact ⟨capped, fun some => (isWarm_iff _).mpr (warm some), near⟩

omit [Arith F] in
theorem isWarm_of_same {ts' : TargetState F} (same : ts.SameBaseline ts') : ts'.isWarm = ts.isWarm := by
  rw [TargetState.isWarm, same.welfordRate, same.welfordEntropy, TargetState.isWarm]

theorem NearReference.counted {ts' : TargetState F} (inv : NearReference ts) (same : ts.SameBaseline ts') :
    NearReference ts' := by
  refine ⟨?_, ?_, ?_⟩
  · rw [TargetState.Capped, same.welfordRate, same.welfordEntropy]
    exact inv.capped
  · rw [same.peacetimeRateRef, isWarm_of_same same]
    exact inv.warm
  · rw [same.peacetimeRateRef, same.welfordRate]
    exact inv.near

theorem NearReference.closes {reading : Reading F} {victim : IpAddr} {w : ClosedWindow F}
    (inv : NearReference ts) (closing : closeWindow cfg reading victim ts = some (after, w)) :
    NearReference after := by
  have closes := (closeWindow_spec closing).1
  have capped := closes.capped inv.capped
  rcases closeWindow_rate closing with ⟨cold, -, same⟩ | ⟨rate, same⟩ | ⟨vd, warm, -, -, learned, -, reference, rate⟩
  · -- In warm-up there is no reference yet: one would mean that warm-up is over.
    have none : ts.peacetimeRateRef = none := by
      cases found : ts.peacetimeRateRef with
      | none => rfl
      | some reference =>
        have hot := inv.warm (by simp [found])
        rw [cold] at hot
        cases hot
    rw [none] at same
    exact ⟨capped, by simp [same], by simp [same]⟩
  · refine ⟨capped, ?_, ?_⟩
    · rw [same]
      exact fun some => closes.staysWarm inv.capped (inv.warm some)
    · rw [same, rate]
      exact inv.near
  · refine ⟨capped, fun _ => closes.staysWarm inv.capped warm, ?_⟩
    rw [reference, rate]
    intro ref member
    cases member
    exact reverted_close _ _

theorem nearReference_survives (cfg : AnalysisConfig F) :
    Survives cfg (fun _ _ _ => True) NearReference SavedNearReference where
  fresh _ _ _ loaded created := .fresh loaded created
  counted _ _ inv same := inv.counted same
  closes _ _ _ _ _ _ inv _ _ _ closing := inv.closes closing
  saved ts inv := ⟨fun some => (isWarm_iff ts).mp (inv.warm some), inv.near⟩

/-- Through any chain of restarts under any configurations, in every state a run reaches: a
mean with a positive reference is within half of it. -/
theorem rate_mean_near_reference (cfg : AnalysisConfig F) (persisted : Option (PersistedState F))
    (saved : SavedBy (fun _ => True) (fun _ _ _ _ => True) persisted) (began : Instant)
    (its : List (Iteration F)) (final : AnalysisState F) (outs : List (List (Effect F)))
    (ran : run (iterate cfg persisted) (AnalysisState.start began) its = some (final, outs))
    (v : IpAddr) (ts : TargetState F) (found : final.targetsMap.get? v = some ts)
    (reference : F) (guards : ts.peacetimeRateRef = some reference) (positive : 0 < reference) :
    baselineHasDrifted ts.welfordRate.mean reference = false ∧
      |ts.welfordRate.mean - reference| ≤ maxBaselineDrift * reference := by
  have loaded := saved.allSaved fun cfg _ => nearReference_survives cfg
  have inv := (loop_survives (nearReference_survives cfg) loaded (everyCheck_true _ its) ran).1 v ts found
  have near := inv.near reference guards
  exact ⟨near, distance_of_not_drifted near positive⟩

/-- Kernel counts of one source for 10.0.0.1. -/
def drainedAt (now : Instant) (packets : Nat) : Iteration ℚ where
  reading := readingAt now
  arrival := .drained [(.v4 0x0A000001,
    { WindowSample.default with ingressPackets := packets, sources := [(.v4 0xC0000201, packets)] })]

/-- Two hundred idle seconds of a new victim, and one window with traffic. -/
def longWarmup : List (Iteration ℚ) :=
  drainedAt 0 0 :: ((List.range 200).map (fun second => tickAt ((second + 1) * 1000000000)) ++
    [drainedAt 200500000000 30])

theorem longWarmup_guarded :
    ∃ final outs, run (iterate AnalysisConfig.default none) (AnalysisState.start 0) longWarmup =
      some (final, outs) ∧ ∃ ts ∈ final.targetsMap.get? (.v4 0x0A000001),
        ∃ reference ∈ ts.peacetimeRateRef, 0 < reference := by
  decide +kernel

theorem longWarmup_near_reference :
    ∃ final outs ts reference, run (iterate AnalysisConfig.default none) (AnalysisState.start 0) longWarmup =
        some (final, outs) ∧
      final.targetsMap.get? (.v4 0x0A000001) = some ts ∧ ts.peacetimeRateRef = some reference ∧ 0 < reference ∧
      baselineHasDrifted ts.welfordRate.mean reference = false ∧
      |ts.welfordRate.mean - reference| ≤ maxBaselineDrift * reference := by
  obtain ⟨final, outs, reached, ts, found, reference, guards, positive⟩ := longWarmup_guarded
  exact ⟨final, outs, ts, reference, reached, found, guards, positive,
    rate_mean_near_reference AnalysisConfig.default none .absent 0 longWarmup final outs reached _ ts found
      reference guards positive⟩

end Drift

section Ceiling

/-- The window due for a victim, if it teaches the baseline at all, has a smoothed rate no
higher than the ceiling. -/
def TaughtBelowCap (cfg : AnalysisConfig F) (reading : Reading F) (st : AnalysisState F) (v : IpAddr) : Prop :=
  ∀ ts ∈ st.targetsMap.get? v, shouldClose reading.now ts = true →
    (ts.isWarm = false → (measure cfg reading v ts).1.r ≤ cfg.rateMeanCap) ∧
    ∀ vd ∈ evaluate cfg ts (measure cfg reading v ts).1, ts.isWarm = true → vd.isCleanWindow = true →
      (measure cfg reading v ts).1.r ≤ cfg.rateMeanCap

instance (reading : Reading F) (st : AnalysisState F) (v : IpAddr) :
    Decidable (TaughtBelowCap cfg reading st v) :=
  inferInstanceAs (Decidable (∀ ts ∈ st.targetsMap.get? v, _ → (_ → _) ∧
    ∀ vd ∈ evaluate cfg ts (measure cfg reading v ts).1, _ → _ → _))

structure BelowCap (cap : F) (ts : TargetState F) : Prop where
  mean : ts.welfordRate.mean ≤ cap
  reference : ∀ x ∈ ts.peacetimeRateRef, x ≤ cap

structure SavedBelowCap (cap : F) (b : PersistedBaseline F) : Prop where
  mean : b.rateMean ≤ cap
  reference : ∀ x ∈ b.peacetimeRateRef, x ≤ cap

theorem BelowCap.fresh {cap : F} (positive : 0 ≤ cap) {p : Option (PersistedBaseline F)} {now : Instant}
    (loaded : ∀ b ∈ p, SavedBelowCap cap b) (created : TargetState.new cfg.ewmaAlpha p now = some ts) :
    BelowCap cap ts := by
  obtain ⟨ewma, -, rfl⟩ := Option.map_eq_some_iff.mp created
  cases p with
  | none => exact ⟨positive, fun x member => by cases member⟩
  | some b =>
    obtain ⟨mean, reference⟩ := loaded b rfl
    exact ⟨mean, reference⟩

theorem BelowCap.counted {cap : F} {ts' : TargetState F} (inv : BelowCap cap ts) (same : ts.SameBaseline ts') :
    BelowCap cap ts' := by
  constructor
  · rw [same.welfordRate]
    exact inv.mean
  · rw [same.peacetimeRateRef]
    exact inv.reference

theorem BelowCap.closes (tuned : cfg.Tuned) (slow : cfg.peacetimeEwmaWeight ≤ 1) {cap : F}
    (lower : cfg.rateMeanCap ≤ cap) {reading : Reading F} {st : AnalysisState F} {v : IpAddr}
    {w : ClosedWindow F} (inv : BelowCap cap ts) (taught : TaughtBelowCap cfg reading st v)
    (found : st.targetsMap.get? v = some ts) (due : shouldClose reading.now ts = true)
    (closing : closeWindow cfg reading v ts = some (after, w)) : BelowCap cap after := by
  obtain ⟨early, late⟩ := taught ts found due
  rw [← (closeWindow_spec closing).1.stats] at early late
  rcases closeWindow_rate closing with ⟨cold, rate, same⟩ | ⟨rate, same⟩ | ⟨vd, warm, judged, clean, learns⟩
  · refine ⟨?_, by rw [same]; exact inv.reference⟩
    rw [rate]
    exact WelfordAccumulator.moved_le _ inv.mean ((early cold).trans lower)
  · exact ⟨by rw [rate]; exact inv.mean, by rw [same]; exact inv.reference⟩
  · obtain ⟨mean, reference⟩ := learns.mem (convex_Iic cap) tuned slow inv.mean inv.reference
      ((late vd judged warm clean).trans lower)
    exact ⟨mean, reference⟩

/-- Positive tuning values, a reference that moves by at most the whole way, and a ceiling
no higher than the given one. -/
structure CapsAt (cap : F) (cfg : AnalysisConfig F) : Prop where
  tuned : cfg.Tuned
  slow : cfg.peacetimeEwmaWeight ≤ 1
  lower : cfg.rateMeanCap ≤ cap

theorem CapsAt.survives {cap : F} (caps : CapsAt cap cfg) :
    Survives cfg (TaughtBelowCap cfg) (BelowCap cap) (SavedBelowCap cap) where
  fresh _ _ _ loaded created := .fresh (caps.tuned.rateMeanCap.le.trans caps.lower) loaded created
  counted _ _ inv same := inv.counted same
  closes _ _ _ _ _ _ inv taught found due closing :=
    inv.closes caps.tuned caps.slow caps.lower taught found due closing
  saved _ inv := ⟨inv.mean, inv.reference⟩

/-- In every run whose teaching windows stay below the ceiling, restarts from such runs
included, so does every learned mean. -/
theorem taught_rate_mean_capped (cfg : AnalysisConfig F) (tuned : cfg.Tuned)
    (slow : cfg.peacetimeEwmaWeight ≤ 1) (persisted : Option (PersistedState F))
    (saved : SavedBy (CapsAt cfg.rateMeanCap) TaughtBelowCap persisted) (began : Instant) (its : List (Iteration F))
    (final : AnalysisState F) (outs : List (List (Effect F)))
    (taught : EveryCheck cfg persisted (TaughtBelowCap cfg) (AnalysisState.start began) its)
    (ran : run (iterate cfg persisted) (AnalysisState.start began) its = some (final, outs))
    (v : IpAddr) (ts : TargetState F) (found : final.targetsMap.get? v = some ts) :
    ts.welfordRate.mean ≤ cfg.rateMeanCap := by
  have loaded : AllSaved (SavedBelowCap cfg.rateMeanCap) persisted :=
    saved.allSaved fun _ caps => caps.survives
  have caps : CapsAt cfg.rateMeanCap cfg := ⟨tuned, slow, le_rfl⟩
  exact ((loop_survives caps.survives loaded taught ran).1 v ts found).mean

theorem longWarmup_capped :
    ∃ final outs ts, run (iterate AnalysisConfig.default none) (AnalysisState.start 0) longWarmup =
        some (final, outs) ∧ final.targetsMap.get? (.v4 0x0A000001) = some ts ∧
      ts.welfordRate.mean ≤ AnalysisConfig.default.rateMeanCap := by
  have taught : EveryCheck AnalysisConfig.default none (TaughtBelowCap AnalysisConfig.default)
      (AnalysisState.start 0) longWarmup := by
    decide +kernel
  obtain ⟨final, outs, reached, ts, found, -⟩ := longWarmup_guarded
  exact ⟨final, outs, ts, reached, found,
    taught_rate_mean_capped AnalysisConfig.default AnalysisConfig.default_tuned
      (by norm_num [AnalysisConfig.default]) none .absent 0 longWarmup final outs taught reached _ ts found⟩

/-- A second at the given rate, from the start of a window to its close. -/
def busySecond (packets : Nat) : List (Iteration ℚ) := [drainedAt 0 packets, tickAt 1000000000]

/-- The first warm-up window of a new victim puts the mean at 25000. Past warm-up a clean
window at 11000 carries a mean of 9999 over the ceiling. -/
theorem busySecond_exceeds_cap :
    (∃ final outs ts, run (iterate AnalysisConfig.default none) (AnalysisState.start 0) (busySecond 200000) =
        some (final, outs) ∧ final.targetsMap.get? (.v4 0x0A000001) = some ts ∧
      AnalysisConfig.default.rateMeanCap < ts.welfordRate.mean) ∧
    ∃ final outs ts, run (iterate AnalysisConfig.default
          (restored [(0x0A000001, { steadyBaseline 9999 0 with ewmaRate := 11000 })]))
        (AnalysisState.start 0) (busySecond 11000) = some (final, outs) ∧
      final.targetsMap.get? (.v4 0x0A000001) = some ts ∧ ts.isWarm = true ∧
      AnalysisConfig.default.rateMeanCap < ts.welfordRate.mean := by
  have first : ∃ final outs, run (iterate AnalysisConfig.default none) (AnalysisState.start 0)
      (busySecond 200000) = some (final, outs) ∧ ∃ ts ∈ final.targetsMap.get? (.v4 0x0A000001),
        AnalysisConfig.default.rateMeanCap < ts.welfordRate.mean := by
    decide +kernel
  have later : ∃ final outs, run (iterate AnalysisConfig.default
        (restored [(0x0A000001, { steadyBaseline 9999 0 with ewmaRate := 11000 })]))
      (AnalysisState.start 0) (busySecond 11000) = some (final, outs) ∧
        ∃ ts ∈ final.targetsMap.get? (.v4 0x0A000001),
          ts.isWarm = true ∧ AnalysisConfig.default.rateMeanCap < ts.welfordRate.mean := by
    decide +kernel
  obtain ⟨final, outs, reached, ts, found, exceeds⟩ := first
  obtain ⟨final', outs', reached', ts', found', warm, exceeds'⟩ := later
  exact ⟨⟨final, outs, ts, reached, found, exceeds⟩, final', outs', ts', reached', found', warm, exceeds'⟩

end Ceiling

end Flod.Stage1
