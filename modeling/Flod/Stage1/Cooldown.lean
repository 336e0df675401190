import Flod.Stage1.AnalysisRun

/-! The flags and the cooldown test one window against two separately written pairs of
boundaries. They agree except on small windows: the entropy flag asks for a minimum
of packets, and the test that refills the cooldown does not. -/

namespace Flod.Stage1
open Flod.Lib Flod.Net

variable {F : Type} [Arith F] {cfg : AnalysisConfig F} {ts : TargetState F} {stats : WindowStats F}

/-- The configurations the cooldown is designed for: it only ever tightens a multiplier. -/
structure CooldownTightens (cfg : AnalysisConfig F) : Prop where
  tuned : cfg.Tuned
  k : 1 ≤ cfg.k
  cooldownKFactor : cfg.cooldownKFactor ≤ 1

theorem baseK_le (tightens : CooldownTightens cfg) : baseK cfg ts ≤ cfg.k := by
  unfold baseK
  split
  · refine max_le ?_ tightens.k
    exact mul_le_of_le_one_right (zero_le_one.trans tightens.k) tightens.cooldownKFactor
  · exact le_rfl

theorem sigmaRate_nonneg (tuned : cfg.Tuned) : 0 ≤ sigmaRate cfg ts :=
  le_min (le_max_of_le_left (WelfordAccumulator.stdDev_nonneg _))
    (le_max_of_le_right tuned.rateSigmaCeilingFloor.le)

theorem sigmaEntropy_nonneg (tuned : cfg.Tuned) {sigmaH : F} (bounded : sigmaEntropy cfg ts = some sigmaH) :
    0 ≤ sigmaH := by
  unfold sigmaEntropy at bounded
  split at bounded
  · cases bounded
    unfold clamp
    split
    · exact tuned.entropySigmaFloor.le
    · split
      · exact tuned.entropySigmaCeiling.le
      · next inside _ => exact tuned.entropySigmaFloor.le.trans (not_lt.mp inside)
  · cases bounded

theorem scaledRateK_mono {k k' : F} (le : k ≤ k') (r meanRate sigmaR h meanH : F) :
    scaledRateK cfg k r meanRate sigmaR h meanH ≤ scaledRateK cfg k' r meanRate sigmaR h meanH := by
  unfold scaledRateK
  split
  · exact le
  · exact mul_le_mul_of_nonneg_right le (zero_le_one.trans (le_max_right _ _))

theorem rateBoundary_mono (tuned : cfg.Tuned) {k k' : F} (le : k ≤ k') :
    rateBoundary cfg ts stats k ≤ rateBoundary cfg ts stats k' :=
  add_le_add_right (mul_le_mul_of_nonneg_right (scaledRateK_mono le _ _ _ _ _) (sigmaRate_nonneg tuned)) _

theorem entropyBoundary_anti {sigmaH k k' : F} (nonneg : 0 ≤ sigmaH) (le : k ≤ k') :
    entropyBoundary ts sigmaH k' ≤ entropyBoundary ts sigmaH k :=
  sub_le_sub_left (mul_le_mul_of_nonneg_right le nonneg) _

theorem anomalyFlags_ne_zero (sigmaH : F) :
    anomalyFlags cfg ts stats sigmaH ≠ 0 ↔
      rateBoundary cfg ts stats (baseK cfg ts) < stats.r ∨
        (cfg.entropyMinPackets ≤ stats.packetCount ∧
          stats.h < entropyBoundary ts sigmaH (baseK cfg ts)) := by
  unfold anomalyFlags entropyAnomalyFires
  by_cases fast : rateBoundary cfg ts stats (baseK cfg ts) < stats.r
  · simp only [fast, if_true, true_or, iff_true]
    split <;> decide
  · simp only [fast, if_false, false_or, Bool.and_eq_true, decide_eq_true_eq]
    split <;> simp_all [flagEntropyAnomaly]

/-- Too few packets for the entropy flag, entropy under the boundary of the cooldown all
the same, and a rate that raises no flag. -/
def Undersampled (cfg : AnalysisConfig F) (ts : TargetState F) (stats : WindowStats F) : Prop :=
  stats.packetCount < cfg.entropyMinPackets ∧
    (∃ sigmaH ∈ sigmaEntropy cfg ts, stats.h < entropyBoundary ts sigmaH cfg.k) ∧
    stats.r ≤ rateBoundary cfg ts stats (baseK cfg ts)

/-- One window: the cooldown refills without a flag exactly when the window is undersampled. -/
theorem evaluate_real_flagged_iff (tightens : CooldownTightens cfg) {vd : Verdict F}
    (judged : evaluate cfg ts stats = some vd) :
    (vd.isRealAnomaly = true → vd.anomalyFlags ≠ 0) ↔ ¬ Undersampled cfg ts stats := by
  have spec := evaluate_spec judged
  have bounded := spec.sigmaH
  have faster : rateBoundary cfg ts stats (baseK cfg ts) ≤ rateBoundary cfg ts stats cfg.k :=
    rateBoundary_mono tightens.tuned (baseK_le tightens)
  have lower : entropyBoundary ts vd.sigmaH cfg.k ≤ entropyBoundary ts vd.sigmaH (baseK cfg ts) :=
    entropyBoundary_anti (sigmaEntropy_nonneg tightens.tuned bounded) (baseK_le tightens)
  rw [spec.anomalyFlags, spec.isRealAnomaly, anomalyFlags_ne_zero]
  simp only [isRealAnomaly, Bool.or_eq_true, decide_eq_true_eq, Undersampled, bounded, Option.mem_some_iff,
    exists_eq_left', not_and, not_le]
  constructor
  · intro agrees few low
    rcases agrees (Or.inr low) with fast | ⟨many, -⟩
    · exact fast
    · exact absurd many (not_le.mpr few)
  · rintro sampled (fast | low)
    · exact Or.inl (faster.trans_lt fast)
    · by_cases many : cfg.entropyMinPackets ≤ stats.packetCount
      · exact Or.inr ⟨many, low.trans_le lower⟩
      · exact Or.inl (sampled (not_le.mp many) low)

/-- In every run: a window past warm-up that counts as a real anomaly carries a flag
exactly if it is not undersampled. -/
theorem real_anomaly_flagged_iff (cfg : AnalysisConfig F) (persisted : Option (PersistedState F))
    (tightens : CooldownTightens cfg) (began : Instant) (its : List (Iteration F))
    (final : AnalysisState F) (outs : List (List (Effect F)))
    (ran : run (iterate cfg persisted) (AnalysisState.start began) its = some (final, outs))
    (w : ClosedWindow F) (closed : w ∈ closedWindows outs.flatten) (vd : Verdict F)
    (judged : w.verdict = some vd) :
    (vd.isRealAnomaly = true → vd.anomalyFlags ≠ 0) ↔ ¬ Undersampled cfg w.before w.stats := by
  obtain ⟨reading, victim, ts, after, closing⟩ := run_closes ran w closed
  obtain ⟨closes, cold | ⟨vd', evaluated⟩⟩ := closeWindow_spec closing
  · rw [cold.verdict] at judged
    cases judged
  · rw [evaluated.verdict] at judged
    cases judged
    rw [closes.before]
    exact evaluate_real_flagged_iff tightens evaluated.judged

/-- Five packets of one client in the first window after a restart, against a baseline
of maximal entropy. -/
def loneClient : List (Iteration ℚ) :=
  List.replicate 5 (packetAt 0 0xC0000201 0x0A000001) ++ [tickAt 1000000000]

theorem default_cooldownTightens : CooldownTightens (AnalysisConfig.default : AnalysisConfig F) :=
  ⟨AnalysisConfig.default_tuned, by norm_num [AnalysisConfig.default], by norm_num [AnalysisConfig.default]⟩

/-- Against a baseline as concentrated as the window itself the two tests agree. -/
theorem loneClient_sampled :
    ∃ final outs, run (iterate AnalysisConfig.default (restored [(0x0A000001, steadyBaseline 10 0)]))
        (AnalysisState.start 0) loneClient = some (final, outs) ∧
      ∃ w ∈ closedWindows outs.flatten, ∃ vd, w.verdict = some vd ∧
        ((vd.isRealAnomaly = true → vd.anomalyFlags ≠ 0) ↔
          ¬ Undersampled AnalysisConfig.default w.before w.stats) := by
  have ran : ∃ final outs, run (iterate AnalysisConfig.default (restored [(0x0A000001, steadyBaseline 10 0)]))
      (AnalysisState.start 0) loneClient = some (final, outs) ∧
        ∃ w ∈ closedWindows outs.flatten, w.verdict.isSome = true := by
    decide +kernel
  obtain ⟨final, outs, reached, w, closed, evaluated⟩ := ran
  obtain ⟨vd, judged⟩ := Option.isSome_iff_exists.mp evaluated
  exact ⟨final, outs, reached, w, closed, vd, judged,
    real_anomaly_flagged_iff _ _ default_cooldownTightens 0 loneClient final outs reached w closed vd judged⟩

/-- The window raises no flag and still starts a cooldown. -/
theorem loneClient_refills_cooldown :
    ∃ final outs, run (iterate AnalysisConfig.default (restored [(0x0A000001, steadyBaseline 10 1)]))
        (AnalysisState.start 0) loneClient = some (final, outs) ∧
      ∃ w ∈ closedWindows outs.flatten, ∃ vd ∈ w.verdict, vd.isRealAnomaly = true ∧ vd.anomalyFlags = 0 := by
  decide +kernel

end Flod.Stage1
