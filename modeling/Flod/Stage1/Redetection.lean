import Flod.Stage1.CommandLine
import Flod.Stage1.RateAlarm

/-! One window judged inside and outside a cooldown. The multiplier of a cooldown is floored
at 1.0 and its factor has no upper bound, so that the cooldown may loosen the boundaries it
is meant to tighten. -/

namespace Flod.Stage1
open Flod.Lib Flod.Net

variable {F : Type} [Arith F] {cfg : AnalysisConfig F} {ts : TargetState F} {stats : WindowStats F}

/-- The window raises the flag against the target's baseline, with the cooldown counter at a
given number. -/
def RaisesAt (cfg : AnalysisConfig F) (ts : TargetState F) (stats : WindowStats F) (cooldown : Nat)
    (flag : BitVec 8) : Prop :=
  ∃ vd ∈ evaluate cfg { ts with cooldownCounter := cooldown } stats, vd.anomalyFlags &&& flag ≠ 0

instance (cooldown : Nat) (flag : BitVec 8) : Decidable (RaisesAt cfg ts stats cooldown flag) :=
  inferInstanceAs (Decidable (∃ vd ∈ evaluate _ _ _, _))

/-- The multiplier of the boundaries at a cooldown counter. -/
def multiplierAt (cfg : AnalysisConfig F) (cooldown : Nat) : F :=
  if 0 < cooldown then max (cfg.k * cfg.cooldownKFactor) 1 else cfg.k

theorem raisesAt_iff (cooldown : Nat) (flag : BitVec 8) :
    RaisesAt cfg ts stats cooldown flag ↔
      ∃ sigmaH ∈ sigmaEntropy cfg ts,
        anomalyFlags cfg { ts with cooldownCounter := cooldown } stats sigmaH &&& flag ≠ 0 := by
  constructor
  · rintro ⟨vd, judged, raised⟩
    have spec := evaluate_spec judged
    rw [spec.anomalyFlags] at raised
    exact ⟨vd.sigmaH, spec.sigmaH, raised⟩
  · rintro ⟨sigmaH, bounded, raised⟩
    refine ⟨_, Option.map_eq_some_iff.mpr ⟨sigmaH, bounded, rfl⟩, raised⟩

theorem raisesAt_rate_iff (cooldown : Nat) :
    RaisesAt cfg ts stats cooldown flagRateAnomaly ↔
      (sigmaEntropy cfg ts).isSome = true ∧
        rateBoundary cfg ts stats (multiplierAt cfg cooldown) < stats.r := by
  rw [raisesAt_iff, Option.isSome_iff_exists]
  constructor
  · rintro ⟨sigmaH, bounded, raised⟩
    exact ⟨⟨sigmaH, bounded⟩, (rateAlarm_iff sigmaH).mp raised⟩
  · rintro ⟨⟨sigmaH, bounded⟩, fast⟩
    exact ⟨sigmaH, bounded, (rateAlarm_iff sigmaH).mpr fast⟩

theorem raisesAt_entropy_iff (cooldown : Nat) :
    RaisesAt cfg ts stats cooldown flagEntropyAnomaly ↔
      ∃ sigmaH ∈ sigmaEntropy cfg ts, cfg.entropyMinPackets ≤ stats.packetCount ∧
        stats.h < entropyBoundary ts sigmaH (multiplierAt cfg cooldown) := by
  rw [raisesAt_iff]
  apply exists_congr
  intro sigmaH
  apply and_congr_right
  intro _
  have fires : entropyAnomalyFires stats.h (entropyBoundary ts sigmaH (multiplierAt cfg cooldown))
      stats.packetCount cfg.entropyMinPackets = true ↔
      cfg.entropyMinPackets ≤ stats.packetCount ∧
        stats.h < entropyBoundary ts sigmaH (multiplierAt cfg cooldown) := by
    simp [entropyAnomalyFires]
  rw [← fires]
  change ((if _ then flagRateAnomaly else 0) ||| (if entropyAnomalyFires stats.h
    (entropyBoundary ts sigmaH (multiplierAt cfg cooldown)) stats.packetCount cfg.entropyMinPackets = true
      then flagEntropyAnomaly else 0)) &&& flagEntropyAnomaly ≠ 0 ↔ _
  by_cases low : entropyAnomalyFires stats.h (entropyBoundary ts sigmaH (multiplierAt cfg cooldown))
      stats.packetCount cfg.entropyMinPackets = true
  · simp only [low, if_true, iff_true]
    split <;> decide
  · simp only [low]
    split <;> decide

theorem sigmaEntropy_isSome_iff :
    (sigmaEntropy cfg ts).isSome = true ↔ cfg.entropySigmaFloor ≤ cfg.entropySigmaCeiling := by
  unfold sigmaEntropy
  split <;> simp [*]

theorem RaisesAt.mono (tuned : cfg.Tuned) {cooldown : Nat}
    (le : multiplierAt cfg cooldown ≤ multiplierAt cfg 0) :
    ∀ flag ∈ [flagRateAnomaly, flagEntropyAnomaly],
      RaisesAt cfg ts stats 0 flag → RaisesAt cfg ts stats cooldown flag := by
  intro flag member raised
  rw [List.mem_cons, List.mem_singleton] at member
  rcases member with rfl | rfl
  · rw [raisesAt_rate_iff] at raised ⊢
    exact ⟨raised.1, (rateBoundary_mono tuned le).trans_lt raised.2⟩
  · rw [raisesAt_entropy_iff] at raised ⊢
    obtain ⟨sigmaH, bounded, many, low⟩ := raised
    have lower : entropyBoundary ts sigmaH (multiplierAt cfg 0) ≤
        entropyBoundary ts sigmaH (multiplierAt cfg cooldown) :=
      entropyBoundary_anti (sigmaEntropy_nonneg tuned bounded) le
    exact ⟨sigmaH, bounded, many, low.trans_le lower⟩

/-! A baseline that has never varied, and one second at a chosen rate and without entropy. -/

def levelTarget : TargetState F := (TargetState.fresh ⟨0, 0⟩ 0).restore warmBaseline

def levelSecond (cfg : AnalysisConfig F) (r : F) : WindowStats F :=
  { (measure cfg (readingAt 0) unspecified levelTarget).1 with r := r }

theorem levelTarget_isWarm : (levelTarget : TargetState F).isWarm = true := rfl

theorem sigmaRate_pos (tuned : cfg.Tuned) : 0 < sigmaRate cfg ts :=
  lt_min (lt_max_of_lt_right (lt_max_of_lt_right tuned.rateSigmaFloor))
    (lt_max_of_lt_right tuned.rateSigmaCeilingFloor)

theorem levelSecond_boundary (r k : F) :
    rateBoundary cfg levelTarget (levelSecond cfg r) k = k * sigmaRate cfg levelTarget := by
  have flat : (levelSecond cfg r).h = 0 := rfl
  have level : (levelTarget : TargetState F).welfordRate.mean = 0 := rfl
  simp only [rateBoundary, scaledRateK, flat, level, zero_div, zero_add]
  split
  · rfl
  · rw [max_eq_right zero_le_one, mul_one]

/-- Where a cooldown has the larger multiplier, the rate on its boundary lies above the
ordinary one. -/
theorem levelSecond_lost (tuned : cfg.Tuned) (ordered : cfg.entropySigmaFloor ≤ cfg.entropySigmaCeiling)
    {cooldown : Nat} (looser : multiplierAt cfg 0 < multiplierAt cfg cooldown) :
    ∃ r, RaisesAt cfg levelTarget (levelSecond cfg r) 0 flagRateAnomaly ∧
      ¬ RaisesAt cfg levelTarget (levelSecond cfg r) cooldown flagRateAnomaly := by
  refine ⟨multiplierAt cfg cooldown * sigmaRate cfg levelTarget, ?_, ?_⟩
  · rw [raisesAt_rate_iff, levelSecond_boundary]
    exact ⟨sigmaEntropy_isSome_iff.mpr ordered, mul_lt_mul_of_pos_right looser (sigmaRate_pos tuned)⟩
  · rw [raisesAt_rate_iff, levelSecond_boundary]
    rintro ⟨-, above⟩
    exact lt_irrefl _ above

theorem multiplierAt_le_iff {cooldown : Nat} (cooling : 0 < cooldown) :
    multiplierAt cfg cooldown ≤ multiplierAt cfg 0 ↔ 1 ≤ cfg.k ∧ cfg.cooldownKFactor ≤ 1 := by
  simp only [multiplierAt, if_pos cooling, lt_irrefl, if_false, max_le_iff]
  constructor
  · rintro ⟨scaled, floored⟩
    have positive : 0 < cfg.k := zero_lt_one.trans_le floored
    exact ⟨floored, (mul_le_iff_le_one_right positive).mp scaled⟩
  · rintro ⟨floored, factor⟩
    exact ⟨mul_le_of_le_one_right (zero_le_one.trans floored) factor, floored⟩

/-- For every command line Stage 1 accepts, and the numbers its `--k` and `--alpha` come to:
the cooldown loses no flag of any window against any baseline exactly if the multiplier is
at least 1 and the factor at most 1. Where the entropy bounds are crossed there is no
verdict to compare. -/
theorem cooldown_keeps_flags_iff (P : Parsers F) (cli : Accepted P) (k alpha : F) :
    (∀ ts stats cooldown, ts.isWarm = true → 0 < cooldown →
      ∀ flag ∈ [flagRateAnomaly, flagEntropyAnomaly],
        RaisesAt (cli.val.analysisConfig k alpha) ts stats 0 flag →
          RaisesAt (cli.val.analysisConfig k alpha) ts stats cooldown flag) ↔
      (cli.val.flags.entropySigmaFloor ≤ cli.val.flags.entropySigmaCeiling →
        1 ≤ k ∧ cli.val.flags.cooldownKFactor ≤ 1) := by
  have tuned := cli.tuned k alpha
  constructor
  · intro keeps ordered
    change 1 ≤ (cli.val.analysisConfig k alpha).k ∧ (cli.val.analysisConfig k alpha).cooldownKFactor ≤ 1
    rw [← multiplierAt_le_iff Nat.one_pos]
    by_contra looser
    obtain ⟨r, raised, lost⟩ := levelSecond_lost tuned ordered (not_le.mp looser)
    exact lost (keeps _ _ 1 levelTarget_isWarm Nat.one_pos _ List.mem_cons_self raised)
  · intro tightens ts stats cooldown _ cooling flag member raised
    obtain ⟨sigmaH, bounded, -⟩ := (raisesAt_iff 0 flag).mp raised
    have ordered : cli.val.flags.entropySigmaFloor ≤ cli.val.flags.entropySigmaCeiling :=
      sigmaEntropy_isSome_iff.mp (Option.isSome_iff_exists.mpr ⟨sigmaH, bounded⟩)
    exact RaisesAt.mono tuned ((multiplierAt_le_iff cooling).mpr (tightens ordered)) flag member raised

/-- The texts of the commands below, read as the numbers they are. -/
def halfAndTwo : Parsers ℚ :=
  { plainParsers with f64 := fun s => [("0.5", 0.5), ("2", 2)].lookup s |>.map .finite }

/-- A factor of 2 doubles the multiplier, and a multiplier of 0.5 is raised to the floor. Either
way a rate that raises the flag outside a cooldown no longer does inside one. -/
theorem loosened_cooldowns :
    (∃ cli ∈ (CliArgs.parse halfAndTwo ["--interface", "br0", "--cooldown-k-factor", "2"]).toOption,
      RaisesAt (cli.analysisConfig 2 0.125) (steadyTarget 10 0.5) (secondAt 200) 0 flagRateAnomaly ∧
        ¬ RaisesAt (cli.analysisConfig 2 0.125) (steadyTarget 10 0.5) (secondAt 200) 3 flagRateAnomaly) ∧
    ∃ cli ∈ (CliArgs.parse halfAndTwo ["--interface", "br0", "--k", "0.5"]).toOption,
      RaisesAt (cli.analysisConfig 0.5 0.125) (steadyTarget 10 0.5) (secondAt 50) 0 flagRateAnomaly ∧
        ¬ RaisesAt (cli.analysisConfig 0.5 0.125) (steadyTarget 10 0.5) (secondAt 50) 3 flagRateAnomaly := by
  decide +kernel

end Flod.Stage1
