import Flod.Lib.History
import Flod.Stage1.AnalysisRun

/-! The freeze escape. The counter behind it counts windows that were not naturally
clean, and a window inside a cooldown is never naturally clean, flagged or not. -/

namespace Flod.Stage1
open Flod.Lib Flod.Net

variable {F : Type} [Arith F] {cfg : AnalysisConfig F} {persisted : Option (PersistedState F)}

/-- The window was judged and raised a flag. -/
def Flagged (w : ClosedWindow F) : Prop := w.verdict.any (fun vd => vd.anomalyFlags ≠ 0) = true

instance : DecidablePred (Flagged (F := F)) := fun _ => inferInstanceAs (Decidable (_ = true))

/-- A window accepted by the escape follows a full freeze of flagged windows of its victim. -/
def EscapeFollowsFlags (cfg : AnalysisConfig F) (past : List (Effect F)) : Effect F → Prop
  | .windowClosed w => w.verdict.any Verdict.escapedFreeze = true →
      Streak Flagged cfg.maxBaselineFreezeWindows (closedOf w.victim past)
  | _ => True

instance (cfg : AnalysisConfig F) (past : List (Effect F)) :
    (e : Effect F) → Decidable (EscapeFollowsFlags cfg past e)
  | .windowClosed _ => inferInstanceAs (Decidable (_ → _))
  | .flowsWritten _ _ => isTrue trivial
  | .baselineSaved _ => isTrue trivial

/-- A window that closes inside a cooldown raises a flag of its own. -/
def FlagsInCooldown (cfg : AnalysisConfig F) (reading : Reading F) (st : AnalysisState F)
    (v : IpAddr) : Prop :=
  ∀ ts, st.targetsMap.get? v = some ts → ts.isWarm = true → shouldClose reading.now ts = true →
    0 < ts.cooldownCounter →
    ∀ sigmaH ∈ sigmaEntropy cfg ts, anomalyFlags cfg ts (measure cfg reading v ts).1 sigmaH ≠ 0

instance (reading : Reading F) (st : AnalysisState F) (v : IpAddr) :
    Decidable (FlagsInCooldown cfg reading st v) :=
  inferInstanceAs (Decidable (∀ ts ∈ st.targetsMap.get? v, _ → _ → _ → ∀ sigmaH ∈ sigmaEntropy cfg ts, _))

/-- A freeze counter covered by flagged windows at the end of the target's history. -/
structure FrozenByFlags (history : List (ClosedWindow F)) (ts : TargetState F) : Prop where
  streak : Streak Flagged ts.consecutiveFrozenWindows history
  cold : ts.isWarm = false → ts.consecutiveFrozenWindows = 0
  capped : ts.Capped

theorem flagged_of_frozen {reading : Reading F} {st : AnalysisState F} {v : IpAddr}
    {ts after : TargetState F} {w : ClosedWindow F} {vd : Verdict F}
    (flags : FlagsInCooldown cfg reading st v) (found : st.targetsMap.get? v = some ts)
    (due : shouldClose reading.now ts = true) (closing : Closes cfg reading v ts after w)
    (evaluated : ClosesEvaluated cfg reading ts after w vd) (frozen : vd.naturallyClean = false) :
    Flagged w := by
  have spec := evaluate_spec evaluated.judged
  have raised : vd.anomalyFlags ≠ 0 := by
    rw [spec.naturallyClean] at frozen
    rcases windowIsClean_eq_false frozen with cooling | raised
    · rw [spec.anomalyFlags, closing.stats]
      exact flags ts found evaluated.warm due cooling vd.sigmaH spec.sigmaH
    · exact raised
  simpa [Flagged, evaluated.verdict] using raised

theorem FrozenByFlags.fresh {v : IpAddr} {now : Instant} {ts : TargetState F}
    (created : TargetState.new cfg.ewmaAlpha (lookup persisted v) now = some ts) :
    FrozenByFlags [] ts := by
  obtain ⟨-, thawed, capped⟩ := TargetState.new_fresh created
  exact ⟨by rw [thawed]; exact streak_zero [], fun _ => thawed, capped⟩

omit [Arith F] in
theorem FrozenByFlags.counted {history : List (ClosedWindow F)} {ts ts' : TargetState F}
    (inv : FrozenByFlags history ts) (same : ts.SameBaseline ts') : FrozenByFlags history ts' where
  streak := by rw [same.consecutiveFrozenWindows]; exact inv.streak
  cold hot := by
    rw [same.consecutiveFrozenWindows]
    exact inv.cold (by rwa [TargetState.isWarm, same.welfordRate, same.welfordEntropy] at hot)
  capped := by
    rw [TargetState.Capped, same.welfordRate, same.welfordEntropy]
    exact inv.capped

theorem FrozenByFlags.closes {history : List (ClosedWindow F)} {reading : Reading F}
    {st : AnalysisState F} {v : IpAddr} {ts after : TargetState F} {w : ClosedWindow F}
    (inv : FrozenByFlags history ts) (flags : FlagsInCooldown cfg reading st v)
    (found : st.targetsMap.get? v = some ts) (due : shouldClose reading.now ts = true)
    (closing : closeWindow cfg reading v ts = some (after, w)) :
    FrozenByFlags (history ++ [w]) after := by
  obtain ⟨closes, cold | ⟨vd, evaluated⟩⟩ := closeWindow_spec closing
  · have thawed : after.consecutiveFrozenWindows = 0 := cold.frozen.trans (inv.cold cold.cold)
    exact ⟨by rw [thawed]; exact streak_zero _, fun _ => thawed, closes.capped inv.capped⟩
  · have hot := closes.staysWarm inv.capped evaluated.warm
    refine ⟨?_, fun cold => absurd (hot.symm.trans cold) (by decide), closes.capped inv.capped⟩
    rw [evaluated.frozen]
    rcases applyFreezeEscape_cases (evaluate_spec evaluated.judged).escape with
      ⟨-, thawed, -⟩ | ⟨-, -, thawed, -⟩ | ⟨frozen, -, grown, -⟩
    · rw [thawed]
      exact streak_zero _
    · rw [thawed]
      exact streak_zero _
    · rw [grown]
      exact inv.streak.concat (flagged_of_frozen flags found due closes evaluated frozen)

/-- An escape means the counter had reached the cap before the window. -/
theorem escape_past_cap {reading : Reading F} {v : IpAddr} {ts after : TargetState F}
    {w : ClosedWindow F} (closing : closeWindow cfg reading v ts = some (after, w))
    (escaped : w.verdict.any Verdict.escapedFreeze = true) :
    cfg.maxBaselineFreezeWindows ≤ ts.consecutiveFrozenWindows := by
  obtain ⟨closes, cold | ⟨vd, evaluated⟩⟩ := closeWindow_spec closing
  · simp [cold.verdict] at escaped
  · simp only [evaluated.verdict, Option.any_some, Verdict.escapedFreeze, Bool.and_eq_true,
      Bool.not_eq_true'] at escaped
    rcases applyFreezeEscape_cases (evaluate_spec evaluated.judged).escape with
      ⟨natural, -, -⟩ | ⟨-, past, -, -⟩ | ⟨-, -, -, unclean⟩
    · rw [natural] at escaped
      cases escaped.2
    · omega
    · rw [unclean] at escaped
      cases escaped.1

/-- In every run in which windows closing inside a cooldown are flagged, each window the
freeze escape accepts follows a full freeze of flagged windows of the same victim. -/
theorem escape_follows_flags (cfg : AnalysisConfig F) (persisted : Option (PersistedState F))
    (began : Instant) (its : List (Iteration F)) (final : AnalysisState F)
    (outs : List (List (Effect F)))
    (flags : EveryCheck cfg persisted (FlagsInCooldown cfg) (AnalysisState.start began) its)
    (ran : run (iterate cfg persisted) (AnalysisState.start began) its = some (final, outs)) :
    Throughout (EscapeFollowsFlags cfg) outs.flatten := by
  refine loop_throughout (T := fun _ => FrozenByFlags)
    (fun _ _ _ created => .fresh created) (fun _ _ _ _ inv same => inv.counted same)
    (fun _ _ _ _ _ _ _ inv flags found due closing => inv.closes flags found due closing) ?_ flags ran
  intro past reading st v ts after w tracks _ found _ closing
  refine throughoutFrom_settle (fun _ _ => trivial) (fun more none escaped => ?_) (fun _ _ _ => trivial)
  have streak := ((tracks v).2 ts found).streak
  have same : closedOf w.victim (past ++ more) = closedOf v past := by
    rw [(closeWindow_spec closing).1.named, closedOf, closedWindows_append, none, List.append_nil, closedOf]
  rw [same]
  exact streak.mono (escape_past_cap closing escaped)

def freezesFor (windows : Nat) : AnalysisConfig ℚ :=
  { AnalysisConfig.default with maxBaselineFreezeWindows := windows }

/-- Four windows of a victim that falls silent, after a restart at the given rate. -/
def silence : List (Iteration ℚ) :=
  packetAt 0 0xC0000201 0x0A000001 :: [1000000000, 2000000000, 3000000000, 4000000000].map tickAt

/-- Falling from 10000 packets a second, all four windows are above the boundary. -/
theorem silence_escapes_flagged :
    ∃ final outs, run (iterate (freezesFor 2) (savedAtRate 10000)) (AnalysisState.start 0) silence =
        some (final, outs) ∧
      (∃ w ∈ closedWindows outs.flatten, w.verdict.any Verdict.escapedFreeze = true) ∧
      Throughout (EscapeFollowsFlags (freezesFor 2)) outs.flatten := by
  have flags : EveryCheck (freezesFor 2) (savedAtRate 10000) (FlagsInCooldown (freezesFor 2))
      (AnalysisState.start 0) silence := by
    decide +kernel
  have ran : ∃ final outs, run (iterate (freezesFor 2) (savedAtRate 10000)) (AnalysisState.start 0) silence =
      some (final, outs) ∧ ∃ w ∈ closedWindows outs.flatten, w.verdict.any Verdict.escapedFreeze = true := by
    decide +kernel
  obtain ⟨final, outs, reached, escapes⟩ := ran
  exact ⟨final, outs, reached, escapes,
    escape_follows_flags _ _ 0 silence final outs flags reached⟩

/-- Falling from 1000, the third window is below every boundary and still counts as frozen. -/
theorem silence_escapes_unflagged :
    ∃ final outs, run (iterate (freezesFor 3) (savedAtRate 1000)) (AnalysisState.start 0) silence =
        some (final, outs) ∧ ¬ Throughout (EscapeFollowsFlags (freezesFor 3)) outs.flatten := by
  decide +kernel

end Flod.Stage1
