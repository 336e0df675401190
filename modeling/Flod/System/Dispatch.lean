import Flod.Stage1.AnalysisRun
import Flod.Stage2.Receiver

/-! From a window Stage 1 closes to the calls Stage 2 makes for it. The tiers only run for
a dominant source Stage 2 can name, and Stage 1 never names one in warm-up. -/

namespace Flod.System
open Flod.Lib Flod.Net Flod.Ipc Flod.Stage1 Flod.Stage2

variable {F : Type} [Arith F]

/-- A call for the dominant source or for a source of the victim's flow snapshot. -/
def Acts (env : WindowEnv F) (view : View F) (fv : FeatureVector F) : Prop :=
  ∃ c ∈ windowCalls env view fv, c.call.ip = dominantText fv ∨
    c.call.ip ∈ (loadVictimFlowRates env (victimText env view fv)).keys

/-- Stage 2 can name the dominant source of the window: it is past warm-up, and its
busiest address is not one of the sentinels. -/
def Attributable (w : ClosedWindow F) : Prop :=
  w.before.isWarm = true ∧ decodeIp w.stats.dominantIp.slot ∉ sentinelTexts

theorem acts_iff_dominantKnown {env : WindowEnv F} {view : View F} {fv : FeatureVector F}
    (attack : (classify env fv).1 = 2)
    (flows : (loadVictimFlowRates env (victimText env view fv)).entries ≠ []) :
    Acts env view fv ↔ dominantText fv ∉ sentinelTexts := by
  unfold Acts windowCalls
  by_cases known : dominantText fv ∈ sentinelTexts
  · simp [attack, dominantKnown, known]
  · simp only [attack, dominantKnown, known, not_false_eq_true, decide_true, if_true, iff_true]
    obtain ⟨c, member⟩ := List.exists_mem_of_ne_nil _
      (TierInputs.calls_ne_nil (t := tierInputs env view fv) flows)
    exact ⟨c, member, TierInputs.mem_calls_ip member⟩

theorem dominantKnown_iff_attributable {cfg : AnalysisConfig F} {reading : Reading F} {victim : IpAddr}
    {ts after : TargetState F} {w : ClosedWindow F} {fv : FeatureVector F}
    (closing : closeWindow cfg reading victim ts = some (after, w)) (sent : w.sent = some fv) :
    dominantText fv ∉ sentinelTexts ↔ Attributable w := by
  obtain ⟨closes, cold | ⟨vd, evaluated⟩⟩ := closeWindow_spec closing
  · have unnamed : dominantText fv ∈ sentinelTexts := by
      rw [dominantText, cold.dominant fv sent, decodeIp_unspecified]
      decide
    simp [Attributable, closes.before, cold.cold, unnamed]
  · rw [Attributable, closes.before, dominantText, evaluated.dominant fv sent]
    simp [evaluated.warm]

/-- Every vector Stage 1 gives to `send`, in any run, against any receiver state and
configuration: if its window ends up in class 2 with a snapshot to act on, Stage 2 acts
exactly if the window is attributable. -/
theorem attack_acted_on_iff_attributable (cfg : AnalysisConfig F) (persisted : Option (PersistedState F))
    (began : Instant) (its : List (Iteration F)) (final : AnalysisState F) (outs : List (List (Effect F)))
    (ran : run (iterate cfg persisted) (AnalysisState.start began) its = some (final, outs))
    (w : ClosedWindow F) (closed : w ∈ closedWindows outs.flatten) (fv : FeatureVector F)
    (sent : w.sent = some fv) (env : WindowEnv F) (view : View F) (attack : (classify env fv).1 = 2)
    (flows : (loadVictimFlowRates env (victimText env view fv)).entries ≠ []) :
    Acts env view fv ↔ Attributable w := by
  obtain ⟨reading, victim, ts, after, closing⟩ := run_closes ran w closed
  rw [acts_iff_dominantKnown attack flows, dominantKnown_iff_attributable closing sent]

/-- One source at 40 packets a second, seen by the sensor's flow file. -/
def oneFlow : WindowEnv ℚ :=
  plainEnv EnforcementConfig.default 100 [⟨"192.0.2.1", "10.0.0.1", 40⟩]

/-- A window of a restored baseline, attributed and acted on. -/
theorem restored_flood_acted_on :
    ∃ final outs, run (iterate AnalysisConfig.default
        (restored [(0x0A000001, { steadyBaseline 10 0 with ewmaRate := 10000 })]))
        (AnalysisState.start 0) [packetAt 0 0xC0000201 0x0A000001, tickAt 1000000000] = some (final, outs) ∧
      ∃ w ∈ closedWindows outs.flatten, ∃ fv, w.sent = some fv ∧ (classify oneFlow fv).1 = 2 ∧
        (loadVictimFlowRates oneFlow (victimText oneFlow View.empty fv)).entries ≠ [] ∧
        (Acts oneFlow View.empty fv ↔ Attributable w) := by
  have ran : ∃ final outs, run (iterate AnalysisConfig.default
      (restored [(0x0A000001, { steadyBaseline 10 0 with ewmaRate := 10000 })]))
      (AnalysisState.start 0) [packetAt 0 0xC0000201 0x0A000001, tickAt 1000000000] = some (final, outs) ∧
        ∃ w ∈ closedWindows outs.flatten, ∃ fv ∈ w.sent, (classify oneFlow fv).1 = 2 ∧
          (loadVictimFlowRates oneFlow (victimText oneFlow View.empty fv)).entries ≠ [] := by
    decide +kernel
  obtain ⟨final, outs, reached, w, closed, fv, sent, attack, listed⟩ := ran
  exact ⟨final, outs, reached, w, closed, fv, sent, attack, listed,
    attack_acted_on_iff_attributable _ _ 0 _ final outs reached w closed fv sent oneFlow View.empty
      attack listed⟩

/-- A packet, eight warm-up windows, then twenty packets of one source in half a second. -/
def warmupFlood : List (Iteration ℚ) :=
  packetAt 0 0xC0000201 0x0A000001 ::
    ([1, 2, 3, 4, 5, 6, 7, 8].map (fun s => tickAt (s * 1000000000)) ++
      List.replicate 20 (packetAt 8500000000 0xC0000201 0x0A000001))

/-- The override puts the ninth window in class 2, and no tier makes a call for it. -/
theorem warmupFlood_not_acted_on :
    ∃ final outs, run (iterate AnalysisConfig.default none) (AnalysisState.start 0) warmupFlood =
        some (final, outs) ∧
      ∃ w ∈ closedWindows outs.flatten, ∃ fv ∈ w.sent, (classify oneFlow fv).1 = 2 ∧
        (loadVictimFlowRates oneFlow (victimText oneFlow View.empty fv)).entries ≠ [] ∧
        windowCalls oneFlow View.empty fv = [] := by
  decide +kernel

end Flod.System
