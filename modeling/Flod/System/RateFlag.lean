import Flod.Stage1.RateAlarm
import Flod.Stage1.RateMean
import Flod.Stage2.Receiver

/-! The volumetric test of both stages. Stage 1 flags a rate above the mean before the window
plus an entropy-scaled multiple of the deviation; Stage 2 repeats the test on the fields of
the vector, which hold the unscaled multiplier and the mean after the window. -/

namespace Flod.System
open Flod.Lib Flod.Net Flod.Ipc Flod.Stage1 Flod.Stage2

variable {F : Type} [Arith F] {cfg : AnalysisConfig F} {ts : TargetState F} {stats : WindowStats F}
  {vd : Verdict F}

/-- `FLAG_RATE_ANOMALY` is set. -/
def RateFlagged (vd : Verdict F) : Prop := vd.anomalyFlags &&& flagRateAnomaly ≠ 0

/-- The test with which `apply_safety_overrides` reopens a verdict. -/
def VolumetricSuspect (fv : FeatureVector F) : Prop := fv.meanR + fv.kMultiplier * fv.sigmaR < fv.ewmaRate

/-- The rate boundary over a mean, without the entropy scaling. -/
def plainBoundary (cfg : AnalysisConfig F) (ts : TargetState F) (mean : F) : F :=
  mean + baseK cfg ts * sigmaRate cfg ts

/-- The rate lies between the plain boundary and the one that the entropy has raised. -/
def Stretched (cfg : AnalysisConfig F) (ts : TargetState F) (stats : WindowStats F) : Prop :=
  plainBoundary cfg ts ts.welfordRate.mean < stats.r ∧ stats.r ≤ rateBoundary cfg ts stats (baseK cfg ts)

/-- The rate is above the raised boundary with the freeze not yet at its cap, or no higher than
the plain boundary, over the mean and over the peacetime reference alike. -/
def OnOneSide (cfg : AnalysisConfig F) (ts : TargetState F) (stats : WindowStats F) : Prop :=
  (rateBoundary cfg ts stats (baseK cfg ts) < stats.r ∧
      ts.consecutiveFrozenWindows < cfg.maxBaselineFreezeWindows) ∨
    (stats.r ≤ plainBoundary cfg ts ts.welfordRate.mean ∧
      ∀ reference ∈ ts.peacetimeRateRef, stats.r ≤ plainBoundary cfg ts reference)

instance : Decidable (OnOneSide cfg ts stats) :=
  inferInstanceAs (Decidable ((_ ∧ _) ∨ (_ ∧ ∀ reference ∈ ts.peacetimeRateRef, _)))

theorem rateFlagged_iff (judged : evaluate cfg ts stats = some vd) :
    RateFlagged vd ↔ rateBoundary cfg ts stats (baseK cfg ts) < stats.r := by
  rw [RateFlagged, (evaluate_spec judged).anomalyFlags]
  exact rateAlarm_iff vd.sigmaH

/-- With the rate flag set, only the end of a freeze makes a window clean. -/
theorem not_clean_of_rateFlagged (judged : evaluate cfg ts stats = some vd) (flagged : RateFlagged vd)
    (frozen : ts.consecutiveFrozenWindows < cfg.maxBaselineFreezeWindows) : vd.isCleanWindow = false := by
  have judges := evaluate_spec judged
  have raised : vd.anomalyFlags ≠ 0 := by
    intro none
    rw [RateFlagged, none] at flagged
    exact flagged (by decide)
  have other : vd.anomalyFlags ≠ flagEntropyAnomaly := by
    intro entropy
    rw [RateFlagged, entropy] at flagged
    exact flagged (by decide)
  have natural : vd.naturallyClean = false := by
    rw [judges.naturallyClean, windowIsClean, if_neg raised]
    simp [other]
  rcases applyFreezeEscape_cases judges.escape with ⟨clean, -⟩ | ⟨-, past, -⟩ | ⟨-, -, -, unclean⟩
  · rw [natural] at clean
    cases clean
  · omega
  · exact unclean

theorem absorb_measured_mean (cfg : AnalysisConfig F) (reading : Reading F) (victim : IpAddr) (ts : TargetState F)
    (stats : WindowStats F) (vd : Verdict F) :
    (absorb cfg (measure cfg reading victim ts).2 stats vd).welfordRate.mean =
      (absorb cfg ts stats vd).welfordRate.mean := by
  unfold absorb
  cases vd.isCleanWindow with
  | true => rfl
  | false => rfl

theorem closeWindow_sent {cfg : AnalysisConfig F} {reading : Reading F} {victim : IpAddr}
    {ts after : TargetState F} {w : ClosedWindow F} {vd : Verdict F} {fv : FeatureVector F}
    (closing : closeWindow cfg reading victim ts = some (after, w)) (judged : w.verdict = some vd)
    (sent : w.sent = some fv) :
    fv.ewmaRate = w.stats.r ∧ fv.kMultiplier = baseK cfg ts ∧ fv.sigmaR = sigmaRate cfg ts ∧
      fv.meanR = (absorb cfg ts w.stats vd).welfordRate.mean := by
  rcases closeWindow_vector closing sent with ⟨unjudged, -⟩ | ⟨vd', evaluated, same, rfl⟩
  · rw [judged] at unjudged
    cases unjudged
  · rw [judged] at same
    cases same
    refine ⟨rfl, ?_, (evaluate_spec evaluated).sigmaR, absorb_measured_mean cfg reading victim ts _ vd⟩
    obtain ⟨sigmaH, -, rfl⟩ := Option.map_eq_some_iff.mp evaluated
    rfl

theorem absorb_mean_of_frozen (frozen : vd.isCleanWindow = false) :
    (absorb cfg ts stats vd).welfordRate.mean = ts.welfordRate.mean := by
  simp [absorb, frozen]

/-- A rate below the plain boundary over the mean and the reference is below it over the mean
that the window leaves: learning moves the mean towards the rate, reverting it to the reference. -/
theorem le_plainBoundary_absorb (tuned : cfg.Tuned) (nonneg : 0 ≤ cfg.k)
    (slow : cfg.peacetimeEwmaWeight ≤ 1) (mean : stats.r ≤ plainBoundary cfg ts ts.welfordRate.mean)
    (reference : ∀ x ∈ ts.peacetimeRateRef, stats.r ≤ plainBoundary cfg ts x) :
    stats.r ≤ plainBoundary cfg ts (absorb cfg ts stats vd).welfordRate.mean := by
  cases clean : vd.isCleanWindow with
  | false => rwa [absorb_mean_of_frozen clean]
  | true =>
    have margin : 0 ≤ baseK cfg ts * sigmaRate cfg ts :=
      mul_nonneg (baseK_nonneg nonneg) (sigmaRate_nonneg tuned)
    have learns := updateBaseline_learnsRate cfg
      { ts with consecutiveFrozenWindows := vd.consecutiveFrozenWindows } stats vd
    obtain ⟨left, -⟩ := learns.mem (convex_Ici (stats.r - baseK cfg ts * sigmaRate cfg ts)) tuned slow
      (sub_le_iff_le_add.mpr mean) (fun x known => sub_le_iff_le_add.mpr (reference x known))
      (sub_le_self _ margin)
    have same : (absorb cfg ts stats vd).welfordRate = (updateBaseline cfg
        { ts with consecutiveFrozenWindows := vd.consecutiveFrozenWindows } stats vd).welfordRate := by
      simp [absorb, clean]
    rw [plainBoundary, same]
    exact sub_le_iff_le_add.mp left

/-- One window: in step, its rate flag says what the test on the mean left behind says. -/
theorem rateFlagged_iff_of_onOneSide (tuned : cfg.Tuned) (nonneg : 0 ≤ cfg.k)
    (slow : cfg.peacetimeEwmaWeight ≤ 1) (judged : evaluate cfg ts stats = some vd)
    (placed : OnOneSide cfg ts stats) :
    RateFlagged vd ↔ plainBoundary cfg ts (absorb cfg ts stats vd).welfordRate.mean < stats.r := by
  have raises : plainBoundary cfg ts ts.welfordRate.mean ≤ rateBoundary cfg ts stats (baseK cfg ts) :=
    plain_le_rateBoundary tuned (baseK_nonneg nonneg)
  rcases placed with ⟨above, frozen⟩ | ⟨mean, reference⟩
  · have flagged : RateFlagged vd := (rateFlagged_iff judged).mpr above
    rw [absorb_mean_of_frozen (not_clean_of_rateFlagged judged flagged frozen)]
    exact iff_of_true flagged (raises.trans_lt above)
  · refine iff_of_false ?_ (not_lt.mpr (le_plainBoundary_absorb tuned nonneg slow mean reference))
    rw [rateFlagged_iff judged]
    exact not_lt.mpr (mean.trans raises)

/-- One window that teaches nothing: both tests use one mean, and differ by the scaling alone. -/
theorem rateFlagged_iff_of_frozen (tuned : cfg.Tuned) (nonneg : 0 ≤ cfg.k)
    (judged : evaluate cfg ts stats = some vd) (frozen : vd.isCleanWindow = false) :
    (RateFlagged vd ↔ plainBoundary cfg ts (absorb cfg ts stats vd).welfordRate.mean < stats.r) ↔
      ¬ Stretched cfg ts stats := by
  have raises : plainBoundary cfg ts ts.welfordRate.mean ≤ rateBoundary cfg ts stats (baseK cfg ts) :=
    plain_le_rateBoundary tuned (baseK_nonneg nonneg)
  rw [absorb_mean_of_frozen frozen, rateFlagged_iff judged, Stretched, not_and, not_le]
  constructor
  · intro agree above
    exact agree.mpr above
  · intro clear
    exact ⟨raises.trans_lt, clear⟩

/-- Every window past warm-up that Stage 1 sends, in any run: if it was in step, it set the rate
flag if and only if Stage 2's test holds; and of a window that is not clean this is so exactly
if its rate is not in the stretch. -/
theorem rate_flag_agrees (cfg : AnalysisConfig F) (tuned : cfg.Tuned) (nonneg : 0 ≤ cfg.k)
    (slow : cfg.peacetimeEwmaWeight ≤ 1) (persisted : Option (PersistedState F))
    (began : Instant) (its : List (Iteration F)) (final : AnalysisState F) (outs : List (List (Effect F)))
    (ran : run (iterate cfg persisted) (AnalysisState.start began) its = some (final, outs))
    (w : ClosedWindow F) (closed : w ∈ closedWindows outs.flatten) (vd : Verdict F)
    (judged : w.verdict = some vd) (fv : FeatureVector F) (sent : w.sent = some fv) :
    (OnOneSide cfg w.before w.stats → (RateFlagged vd ↔ VolumetricSuspect fv)) ∧
      (vd.isCleanWindow = false →
        ((RateFlagged vd ↔ VolumetricSuspect fv) ↔ ¬ Stretched cfg w.before w.stats)) := by
  obtain ⟨reading, victim, ts, after, closing⟩ := run_closes ran w closed
  obtain ⟨rate, multiplier, deviation, mean⟩ := closeWindow_sent closing judged sent
  obtain ⟨closes, cold | ⟨vd', evaluated⟩⟩ := closeWindow_spec closing
  · rw [cold.verdict] at judged
    cases judged
  · have own : evaluate cfg ts w.stats = some vd := by
      rw [evaluated.verdict] at judged
      cases judged
      exact evaluated.judged
    have suspect : VolumetricSuspect fv ↔
        plainBoundary cfg ts (absorb cfg ts w.stats vd).welfordRate.mean < w.stats.r := by
      rw [VolumetricSuspect, plainBoundary, mean, rate, multiplier, deviation]
    rw [closes.before, suspect]
    exact ⟨rateFlagged_iff_of_onOneSide tuned nonneg slow own, rateFlagged_iff_of_frozen tuned nonneg own⟩

instance (vd : Verdict F) : Decidable (RateFlagged vd) := inferInstanceAs (Decidable (_ ≠ _))

instance (fv : FeatureVector F) : Decidable (VolumetricSuspect fv) := inferInstanceAs (Decidable (_ < _))

/-- The windows past warm-up that were delivered, with their verdicts and vectors. -/
def deliveredVerdicts (effects : List (Effect F)) : List (ClosedWindow F × Verdict F × FeatureVector F) :=
  (closedWindows effects).filterMap (fun w =>
    if w.delivered then w.verdict.bind (fun vd => w.sent.map (fun fv => (w, vd, fv))) else none)

/-- A flood from one source: both stages see it. -/
theorem flood_agreed :
    ∃ final outs, resumedAt AnalysisConfig.default 10000
        [packetAt 2000000000 0xC0000201 0x0A000001, tickAt 3000000000] = some (final, outs) ∧
      ∃ w vd fv, w ∈ closedWindows outs.flatten ∧ w.verdict = some vd ∧ w.sent = some fv ∧
        RateFlagged vd ∧ VolumetricSuspect fv := by
  have ran : ∃ final outs, resumedAt AnalysisConfig.default 10000
      [packetAt 2000000000 0xC0000201 0x0A000001, tickAt 3000000000] = some (final, outs) ∧
        ∃ w ∈ closedWindows outs.flatten, ∃ vd ∈ w.verdict, ∃ fv ∈ w.sent,
          RateFlagged vd ∧ OnOneSide AnalysisConfig.default w.before w.stats := by
    decide +kernel
  obtain ⟨final, outs, reached, w, closed, vd, judged, fv, sent, flagged, placed⟩ := ran
  obtain ⟨agreed, -⟩ := rate_flag_agrees _ AnalysisConfig.default_tuned (by norm_num [AnalysisConfig.default])
    (by norm_num [AnalysisConfig.default]) _ 0 _ final outs reached w closed vd judged fv sent
  exact ⟨final, outs, reached, w, vd, fv, closed, judged, sent, flagged, (agreed placed).mp flagged⟩

/-- Two sources in turn, at a rate the entropy scaling lifts the boundary over. -/
def twoSources : List (Iteration ℚ) :=
  [packetAt 2000000000 0xC0000201 0x0A000001, packetAt 2000000000 0xC0000202 0x0A000001,
    tickAt 3000000000]

/-- A flagged window, and one just above the boundary that ends the freeze. -/
def escapingFlood : List (Iteration ℚ) :=
  [packetAt 2000000000 0xC0000201 0x0A000001, tickAt 3000000000] ++
    List.replicate 10 (packetAt 3500000000 0xC0000201 0x0A000001) ++ [tickAt 4040000000]

/-- Delivered windows on which the stages disagree, one each way: unflagged and suspect,
flagged and not suspect. -/
theorem stages_disagree :
    (∃ final outs, resumedAt AnalysisConfig.default 600 twoSources = some (final, outs) ∧
      ∃ x ∈ deliveredVerdicts outs.flatten, ¬ RateFlagged x.2.1 ∧ VolumetricSuspect x.2.2) ∧
    ∃ final outs, resumedAt { AnalysisConfig.default with maxBaselineFreezeWindows := 1 } 550
        escapingFlood = some (final, outs) ∧
      ∃ x ∈ deliveredVerdicts outs.flatten, RateFlagged x.2.1 ∧ ¬ VolumetricSuspect x.2.2 := by
  constructor
  · decide +kernel
  · decide +kernel

end Flod.System
