import Flod.Stage2.Receiver

/-! The safety overrides as a monotone function. Worse inputs against the same baseline never
lower the class, and no input lowers the class the classifier predicted. -/

namespace Flod.Stage2
open Flod.Lib Flod.Ipc

variable {F : Type} [Arith F] {cfg : EnforcementConfig F} {fv fv' : FeatureVector F} {rate rate' : F}

/-- The rate is above the boundary of the window's own multiplier. -/
def RateExceeds (fv : FeatureVector F) : Prop := fv.meanR + fv.kMultiplier * fv.sigmaR < fv.ewmaRate

/-- One source is past the block bar, the sources are too few, or one has too large a share. -/
def Concentrated (cfg : EnforcementConfig F) (fv : FeatureVector F) (dominantRate : F) : Prop :=
  max cfg.blockRateFloorPps (fv.meanR + cfg.blockSigmaMultiplier * fv.sigmaR) < dominantRate ∨
    fv.entropy < fv.meanH - fv.kMultiplier * fv.sigmaH ∨
    cfg.dominantIpRatioExtremeThreshold < fv.dominantIpRatio

theorem applySafetyOverrides_cases (predClass : Int) (fv : FeatureVector F) (dominantRate : F)
    (cfg : EnforcementConfig F) :
    ((predClass = 0 ∨ predClass = 1) ∧ RateExceeds fv ∧ Concentrated cfg fv dominantRate ∧
        (applySafetyOverrides predClass fv dominantRate cfg).1 = 2) ∨
      ((predClass = 0 ∨ predClass = 1) ∧ RateExceeds fv ∧ ¬ Concentrated cfg fv dominantRate ∧
        (applySafetyOverrides predClass fv dominantRate cfg).1 = 1) ∨
      (¬ ((predClass = 0 ∨ predClass = 1) ∧ RateExceeds fv) ∧
        (applySafetyOverrides predClass fv dominantRate cfg).1 = predClass) := by
  unfold applySafetyOverrides
  dsimp only
  split
  · next low =>
    split
    · next fast => exact Or.inl ⟨low.1, low.2, Or.inl fast, rfl⟩
    · next slow =>
      split
      · next few => exact Or.inl ⟨low.1, low.2, Or.inr few, rfl⟩
      · next many =>
        refine Or.inr (Or.inl ⟨low.1, low.2, ?_, rfl⟩)
        rintro (fast | few)
        · exact slow fast
        · exact many few
  · next high => exact Or.inr (Or.inr ⟨high, rfl⟩)

/-- Two windows against one baseline and multiplier, the second at least as suspicious in
everything the overrides compare. -/
structure Worsens (fv fv' : FeatureVector F) (rate rate' : F) : Prop where
  meanR : fv'.meanR = fv.meanR
  sigmaR : fv'.sigmaR = fv.sigmaR
  meanH : fv'.meanH = fv.meanH
  sigmaH : fv'.sigmaH = fv.sigmaH
  kMultiplier : fv'.kMultiplier = fv.kMultiplier
  ewmaRate : fv.ewmaRate ≤ fv'.ewmaRate
  dominantRate : rate ≤ rate'
  dominantIpRatio : fv.dominantIpRatio ≤ fv'.dominantIpRatio
  entropy : fv'.entropy ≤ fv.entropy

theorem Worsens.rateExceeds (worse : Worsens fv fv' rate rate') (exceeds : RateExceeds fv) : RateExceeds fv' := by
  unfold RateExceeds at exceeds ⊢
  rw [worse.meanR, worse.kMultiplier, worse.sigmaR]
  exact exceeds.trans_le worse.ewmaRate

theorem Worsens.concentrated (worse : Worsens fv fv' rate rate') (few : Concentrated cfg fv rate) :
    Concentrated cfg fv' rate' := by
  unfold Concentrated at few ⊢
  rw [worse.meanR, worse.sigmaR, worse.meanH, worse.kMultiplier, worse.sigmaH]
  rcases few with fast | low | large
  · exact Or.inl (fast.trans_le worse.dominantRate)
  · exact Or.inr (Or.inl (worse.entropy.trans_lt low))
  · exact Or.inr (Or.inr (large.trans_le worse.dominantIpRatio))

theorem le_applySafetyOverrides (predClass : Int) (fv : FeatureVector F) (rate : F) (cfg : EnforcementConfig F) :
    predClass ≤ (applySafetyOverrides predClass fv rate cfg).1 := by
  rcases applySafetyOverrides_cases predClass fv rate cfg with ⟨low, -, -, raised⟩ | ⟨low, -, -, raised⟩ |
    ⟨-, same⟩
  · omega
  · omega
  · exact same.ge

/-- Jointly monotone in the prediction, the two rates, the share and the entropy, and never
below the prediction. -/
theorem overrides_monotone (cfg : EnforcementConfig F) (predClass predClass' : Int)
    (le : predClass ≤ predClass') (fv fv' : FeatureVector F) (rate rate' : F)
    (worse : Worsens fv fv' rate rate') :
    (applySafetyOverrides predClass fv rate cfg).1 ≤ (applySafetyOverrides predClass' fv' rate' cfg).1 ∧
      predClass ≤ (applySafetyOverrides predClass fv rate cfg).1 ∧
      predClass' ≤ (applySafetyOverrides predClass' fv' rate' cfg).1 := by
  have above := le_applySafetyOverrides predClass' fv' rate' cfg
  refine ⟨?_, le_applySafetyOverrides predClass fv rate cfg, above⟩
  rcases applySafetyOverrides_cases predClass fv rate cfg with ⟨low, exceeds, few, raised⟩ |
    ⟨low, exceeds, -, raised⟩ | ⟨-, same⟩
  · -- class 2: the second window meets the same tests, or was predicted 2
    rcases applySafetyOverrides_cases predClass' fv' rate' cfg with ⟨-, -, -, raised'⟩ | ⟨-, -, many, -⟩ |
      ⟨kept, same'⟩
    · omega
    · exact absurd (worse.concentrated few) many
    · have high : ¬ (predClass' = 0 ∨ predClass' = 1) := fun low' => kept ⟨low', worse.rateExceeds exceeds⟩
      omega
  · rcases applySafetyOverrides_cases predClass' fv' rate' cfg with ⟨-, -, -, raised'⟩ | ⟨-, -, -, raised'⟩ |
      ⟨kept, same'⟩
    · omega
    · omega
    · have high : ¬ (predClass' = 0 ∨ predClass' = 1) := fun low' => kept ⟨low', worse.rateExceeds exceeds⟩
      omega
  · omega

/-- Eleven packets a second against a mean of ten: a flash crowd when spread over many
sources, an attack when one of them sends nearly all. -/
def busyVector (share : ℚ) : FeatureVector ℚ :=
  { uniformVector 0 with ewmaRate := 11, meanR := 10, entropy := 1 - share, dominantIpRatio := share }

theorem busyVector_worsens :
    (applySafetyOverrides 0 (busyVector 0.1) 1 EnforcementConfig.default).1 = 1 ∧
      (applySafetyOverrides 1 (busyVector 0.9) 10 EnforcementConfig.default).1 = 2 ∧
      (applySafetyOverrides 0 (busyVector 0.1) 1 EnforcementConfig.default).1 ≤
        (applySafetyOverrides 1 (busyVector 0.9) 10 EnforcementConfig.default).1 := by
  have worse : Worsens (busyVector 0.1) (busyVector 0.9) 1 10 := by
    constructor <;> norm_num [busyVector, uniformVector]
  exact ⟨by decide +kernel, by decide +kernel,
    (overrides_monotone EnforcementConfig.default 0 1 (by decide) _ _ 1 10 worse).1⟩

end Flod.Stage2
