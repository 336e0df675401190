import Flod.Stage1.Cooldown

/-! The rate alarm as a function of the rate. The boundary depends on the rate it is compared
with and drops at the emergency volume, so that it is no threshold by its form. -/

namespace Flod.Stage1
open Flod.Lib Flod.Net

variable {F : Type} [Arith F] {cfg : AnalysisConfig F} {ts : TargetState F} {stats : WindowStats F}

/-- The window raises `FLAG_RATE_ANOMALY`. -/
def RateAlarm (cfg : AnalysisConfig F) (ts : TargetState F) (stats : WindowStats F) (sigmaH : F) : Prop :=
  anomalyFlags cfg ts stats sigmaH &&& flagRateAnomaly ≠ 0

instance (sigmaH : F) : Decidable (RateAlarm cfg ts stats sigmaH) :=
  inferInstanceAs (Decidable (_ ≠ _))

theorem rateAlarm_iff (sigmaH : F) :
    RateAlarm cfg ts stats sigmaH ↔ rateBoundary cfg ts stats (baseK cfg ts) < stats.r := by
  unfold RateAlarm anomalyFlags
  by_cases fast : rateBoundary cfg ts stats (baseK cfg ts) < stats.r
  · simp only [fast, if_true, iff_true]
    split <;> decide
  · simp only [fast, if_false, iff_false]
    split <;> decide

/-- The rate past which the entropy no longer scales the multiplier. -/
def emergencyRate (cfg : AnalysisConfig F) (ts : TargetState F) : F :=
  ts.welfordRate.mean + cfg.emergencyVolumeSigma * sigmaRate cfg ts

theorem rateBoundary_emergency {k : F} (past : emergencyRate cfg ts < stats.r) :
    rateBoundary cfg ts stats k = ts.welfordRate.mean + k * sigmaRate cfg ts := by
  have unscaled : ts.welfordRate.mean + cfg.emergencyVolumeSigma * sigmaRate cfg ts < stats.r := past
  simp only [rateBoundary, scaledRateK, if_pos unscaled]

theorem rateBoundary_below {k r r' : F} (below : r ≤ emergencyRate cfg ts) (below' : r' ≤ emergencyRate cfg ts) :
    rateBoundary cfg ts { stats with r := r } k = rateBoundary cfg ts { stats with r := r' } k := by
  have scaled : ¬ ts.welfordRate.mean + cfg.emergencyVolumeSigma * sigmaRate cfg ts < r := not_lt.mpr below
  have scaled' : ¬ ts.welfordRate.mean + cfg.emergencyVolumeSigma * sigmaRate cfg ts < r' := not_lt.mpr below'
  simp only [rateBoundary, scaledRateK, if_neg scaled, if_neg scaled']

theorem baseK_nonneg (nonneg : 0 ≤ cfg.k) : 0 ≤ baseK cfg ts := by
  unfold baseK
  split
  · exact zero_le_one.trans (le_max_right _ _)
  · exact nonneg

theorem plain_le_rateBoundary (tuned : cfg.Tuned) {k : F} (nonneg : 0 ≤ k) :
    ts.welfordRate.mean + k * sigmaRate cfg ts ≤ rateBoundary cfg ts stats k := by
  have scaled : k ≤ scaledRateK cfg k stats.r ts.welfordRate.mean (sigmaRate cfg ts) stats.h
      ts.welfordEntropy.mean := by
    unfold scaledRateK
    split
    · exact le_rfl
    · exact le_mul_of_one_le_right nonneg (le_max_right _ _)
  exact add_le_add_right (mul_le_mul_of_nonneg_right scaled (sigmaRate_nonneg tuned)) _

theorem rateAlarm_mono (tuned : cfg.Tuned) (nonneg : 0 ≤ cfg.k) {sigmaH r r' : F} (le : r ≤ r')
    (alarm : RateAlarm cfg ts { stats with r := r } sigmaH) :
    RateAlarm cfg ts { stats with r := r' } sigmaH := by
  rw [rateAlarm_iff] at alarm ⊢
  by_cases past : emergencyRate cfg ts < r'
  · -- The boundary may have dropped between the two rates, never risen.
    calc rateBoundary cfg ts { stats with r := r' } (baseK cfg ts)
        = ts.welfordRate.mean + baseK cfg ts * sigmaRate cfg ts := rateBoundary_emergency past
      _ ≤ rateBoundary cfg ts { stats with r := r } (baseK cfg ts) :=
          plain_le_rateBoundary tuned (baseK_nonneg nonneg)
      _ < r := alarm
      _ ≤ r' := le
  · have below' : r' ≤ emergencyRate cfg ts := not_lt.mp past
    rw [rateBoundary_below below' (le.trans below')]
    exact lt_of_lt_of_le alarm le

theorem rateAlarm_of_emergency (tuned : cfg.Tuned) {sigmaH : F}
    (past : ts.welfordRate.mean + max cfg.emergencyVolumeSigma (baseK cfg ts) * sigmaRate cfg ts < stats.r) :
    RateAlarm cfg ts stats sigmaH := by
  have nonneg : 0 ≤ sigmaRate cfg ts := sigmaRate_nonneg tuned
  have emergency : emergencyRate cfg ts < stats.r := by
    apply lt_of_le_of_lt _ past
    exact add_le_add_right (mul_le_mul_of_nonneg_right (le_max_left _ _) nonneg) _
  rw [rateAlarm_iff, rateBoundary_emergency emergency]
  apply lt_of_le_of_lt _ past
  exact add_le_add_right (mul_le_mul_of_nonneg_right (le_max_right _ _) nonneg) _

/-- Against any one baseline and cooldown the alarm is upward closed in the rate, and every
rate past both the emergency volume and the plain boundary raises it at any entropy. -/
theorem rate_alarm_upward (cfg : AnalysisConfig F) (tuned : cfg.Tuned) (nonneg : 0 ≤ cfg.k)
    (ts : TargetState F) (stats : WindowStats F) (sigmaH : F) :
    (∀ r r', r ≤ r' → RateAlarm cfg ts { stats with r := r } sigmaH →
      RateAlarm cfg ts { stats with r := r' } sigmaH) ∧
    ∀ r h, ts.welfordRate.mean + max cfg.emergencyVolumeSigma (baseK cfg ts) * sigmaRate cfg ts < r →
      RateAlarm cfg ts { stats with r := r, h := h } sigmaH := by
  constructor
  · intro r r' le alarm
    exact rateAlarm_mono tuned nonneg le alarm
  · intro r h past
    exact rateAlarm_of_emergency tuned past

/-- A target just past warm-up at a rate and an entropy that have never varied. -/
def steadyTarget (rate entropy : ℚ) : TargetState ℚ :=
  (TargetState.fresh ⟨rate, 0.125⟩ 0).restore (steadyBaseline rate entropy)

/-- The figures of an idle second, with the given rate. -/
def secondAt (rate : ℚ) : WindowStats ℚ :=
  { (measure AnalysisConfig.default (readingAt 1000000000) unspecified (steadyTarget 10 0.5)).1 with r := rate }

theorem doubled_rate_alarms :
    RateAlarm AnalysisConfig.default (steadyTarget 10 0.5) (secondAt 200) 0.05 ∧
      RateAlarm AnalysisConfig.default (steadyTarget 10 0.5) (secondAt 400) 0.05 := by
  have first : RateAlarm AnalysisConfig.default (steadyTarget 10 0.5) (secondAt 200) 0.05 := by
    decide +kernel
  have nonneg : 0 ≤ (AnalysisConfig.default : AnalysisConfig ℚ).k := by norm_num [AnalysisConfig.default]
  obtain ⟨upward, -⟩ := rate_alarm_upward AnalysisConfig.default AnalysisConfig.default_tuned nonneg
    (steadyTarget 10 0.5) (secondAt 200) 0.05
  exact ⟨first, upward 200 400 (by norm_num) first⟩

end Flod.Stage1
